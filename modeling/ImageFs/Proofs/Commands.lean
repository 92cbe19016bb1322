import ImageFs.CommandLine
import ImageFs.Proofs.Persistence

/-!
The steps of the commands that concern an image. Main statement: on an image in order that is opened by
name each step ends, with the answer of the operation, and leaves an image in order under the name.
-/

namespace ImageFs

/-! Images by name -/

/-- The name leads to the file of the session, which is in order and stands for the tree. -/
structure Session.Named (geometry : Geometry) (name : String) (session : Session) (tree : Tree) :
    Prop where
  isFile : session.host.file name = .ok (session.path, session.backing)
  order : session.InOrder geometry
  tree : session.tree geometry = tree

namespace Session

variable {geometry : Geometry} {session : Session} {name : String} {tree tree' : Tree} {host : Host}
  {path : HostPath} {mounted : Host.Mounted}

/-- A file that holds what an image in order holds is an image in order, wherever it is. -/
theorem InOrder.named (order : session.InOrder geometry)
    (isFile : host.file name = .ok (path, session.backing)) :
    Named geometry name ⟨host, path, []⟩ (session.tree geometry) := by
  obtain ⟨chain, represents⟩ := order.represents
  have isNode := Host.node?_of_file isFile
  obtain ⟨order', -, isTree⟩ := @InOrder.of_disk geometry ⟨host, path, []⟩ _ _ _ _ isNode order.size
    order.rest rfl represents (by simp)
  have same : (Session.mk host path []).backing = session.backing := backing_eq isNode
  exact ⟨same ▸ isFile, order', isTree⟩

namespace Named

theorem wellFormed (named : Named geometry name session tree) :
    tree.WellFormed geometry.inodeCount := by
  obtain ⟨chain, represents⟩ := named.order.represents
  exact named.tree ▸ represents.wellFormed

theorem openImage (named : Named geometry name ⟨host, path, []⟩ tree) :
    ∃ mounted after, host.openImage name = (.ok mounted, after) ∧ mounted.image.files = .empty ∧
      mounted.image.volume.geometry = geometry ∧ Named geometry name ⟨after, path, [mounted]⟩ tree ∧
      (Session.mk after path [mounted]).backing = (Session.mk host path []).backing := by
  obtain ⟨isFile, order, isTree⟩ := named
  have opens := order.openImage_answers isFile
  have order' := order.openImage opens rfl
  have same := order.backing_of_openImage opens rfl [⟨path, geometry.volume host.nextOwner, .empty⟩]
  have notDirectory : host.node? path ≠ some .directory := by
    simp [Host.node?_of_file isFile]
  have made : Host.Later host { host with nextOwner := host.nextOwner + 1 } :=
    ⟨rfl, fun _ isDirectory => isDirectory⟩
  have later := made.put_of_ne notDirectory (Session.mk host path []).backing
  have isFile' := Host.file_of_later later isFile (Host.node?_put ..)
  refine ⟨_, _, opens, rfl, rfl, ⟨?_, order', ?_⟩, same⟩
  · rw [same]
    exact isFile'
  · rw [← isTree]
    exact tree_of_backing same

/-- An operation is answered by its outcome, and what it leaves has the name still. -/
theorem perform (named : Named geometry name ⟨host, path, [mounted]⟩ tree)
    {operation : Image.Operation} {answer : Except FsError Image.Answer} {files : OpenFiles}
    (isOutcome : operation.outcome geometry ((Session.mk host path [mounted]).disk geometry) tree
      mounted.image.files = (answer, files, tree')) :
    ∃ after, host.perform mounted operation =
        (answer.mapError .failed, { mounted with image.files := files }, after) ∧
      Named geometry name ⟨after, path, [{ mounted with image.files := files }]⟩ tree' := by
  obtain ⟨isFile, order, rfl⟩ := named
  obtain ⟨⟨after, path', images⟩, performs, order', isImages, isTree'⟩ :=
    order.yields (show [mounted][0]? = some mounted from rfl) isOutcome
  obtain ⟨isPath, backing, isHost⟩ := order.host_of_perform performs
  obtain rfl : path' = path := isPath
  obtain rfl : after = host.put path' (.file backing) := isHost
  obtain rfl : images = [{ mounted with image.files := files }] := isImages
  have isNode := Host.node?_put host path' (.file backing)
  have same : (Session.mk (host.put path' (.file backing)) path'
      [{ mounted with image.files := files }]).backing = backing := backing_eq isNode
  refine ⟨_, ?_, ?_, order', isTree'⟩
  rw [Session.perform] at performs
  simp only [List.getElem?_cons_zero, Option.some.injEq, Prod.mk.injEq, mk.injEq, List.set_cons_zero,
    List.cons.injEq, and_true, true_and] at performs
  · obtain ⟨isAnswer, isHost, isMounted⟩ := performs
    exact Prod.ext isAnswer (Prod.ext isMounted isHost)
  · rw [same]
    exact Host.file_put isFile backing

theorem closeImage (named : Named geometry name ⟨host, path, [mounted]⟩ tree) :
    Named geometry name ⟨(host.closeImage mounted).2, path, []⟩ tree := by
  obtain ⟨isFile, order, isTree⟩ := named
  have member : mounted ∈ (Session.mk host path [mounted]).images := List.mem_singleton.mpr rfl
  have same := order.backing_of_closeImage member []
  refine ⟨?_, order.closeImage (show [mounted][0]? = some mounted from rfl), ?_⟩
  · rw [same, order.closeImage_host member]
    exact Host.file_put isFile _
  · rw [← isTree]
    exact tree_of_backing same

end Named

end Session

namespace CommandLine

variable {α β : Type}

/-! Running commands -/

namespace Command

variable {command : Command α} {next : α → Command β} {console after : Console} {value : α}

theorem bind_apply (command : Command α) (next : α → Command β) (console : Console) :
    (command >>= next).run console =
      match command.run console with
      | (.ok value, after) => (next value).run after
      | (.error failure, after) => (.error failure, after) := by
  change (ExceptT.bindCont next (command.run console).1 : StateM Console _)
    (command.run console).2 = _
  rcases command.run console with ⟨failure | value, after⟩ <;> rfl

theorem bind_ok (runs : command.run console = (.ok value, after)) :
    (command >>= next).run console = (next value).run after := by
  rw [bind_apply, runs]

theorem bind_error {failure : Failure} (fails : command.run console = (.error failure, after)) :
    (command >>= next).run console = (.error failure, after) := by
  rw [bind_apply, fails]

/-- The command comes to its goal, or it tells what went wrong. -/
def Achieves (command : Command α) (console : Console) (goal : α → Console → Prop) : Prop :=
  match command.run console with
  | (.ok value, after) => goal value after
  | (.error (.told _), _) => True
  | (.error .halted, _) => False

namespace Achieves

variable {goal : β → Console → Prop}

theorem of_ok {command : Command β} {value : β} (runs : command.run console = (.ok value, after))
    (done : goal value after) : command.Achieves console goal := by
  rw [Achieves, runs]
  exact done

theorem bind_told {trace : List String}
    (fails : command.run console = (.error (.told trace), after)) :
    (command >>= next).Achieves console goal := by
  rw [Achieves, Command.bind_error fails]
  trivial

theorem bind_ok (runs : command.run console = (.ok value, after))
    (rest : (next value).Achieves after goal) : (command >>= next).Achieves console goal := by
  rw [Achieves, Command.bind_ok runs]
  exact rest

theorem bind {middle : α → Console → Prop} (first : command.Achieves console middle)
    (rest : ∀ value after, middle value after → (next value).Achieves after goal) :
    (command >>= next).Achieves console goal := by
  rw [Achieves] at first ⊢
  rw [Command.bind_apply]
  generalize command.run console = result at first ⊢
  rcases result with ⟨(trace | _) | value, after⟩
  · trivial
  · exact first
  · exact rest value after first

/-- An error of the image is told. -/
theorem within (context : String) (answer : Except FsError β) :
    (within context (answer.mapError .failed)).Achieves console
      fun value after => answer = .ok value ∧ after = console := by
  cases answer with
  | error error => trivial
  | ok value => exact ⟨rfl, rfl⟩

end Achieves

end Command

/-- A program that comes to its goal ends with code 0, and otherwise with code 1. -/
theorem run_of_achieves {arguments : List String} {host : Host} {goal : Console → Prop}
    (achieves : (dispatch arguments).Achieves ⟨host, []⟩ fun _ after => goal after) :
    (run arguments host).1.code = 0 ∧
        (∃ after, goal after ∧ (run arguments host).2 = after.host) ∨
      (run arguments host).1.code = 1 := by
  rw [Command.Achieves] at achieves
  rw [run]
  generalize (dispatch arguments).run ⟨host, []⟩ = result at achieves ⊢
  rcases result with ⟨(trace | _) | value, after⟩
  · exact .inr rfl
  · exact achieves.elim
  · exact .inl ⟨rfl, after, achieves, rfl⟩

theorem run_of_ok {arguments : List String} {host : Host} {after : Console}
    (ends : (dispatch arguments).run ⟨host, []⟩ = (.ok (), after)) :
    run arguments host = (⟨0, after.output, ""⟩, after.host) := by
  rw [run, ends]
  rfl

theorem run_of_told {arguments : List String} {host : Host} {trace : List String} {after : Console}
    (ends : (dispatch arguments).run ⟨host, []⟩ = (.error (.told trace), after)) :
    run arguments host =
      (⟨1, after.output, "error: " ++ ": ".intercalate trace ++ "\n"⟩, after.host) := by
  rw [run, ends]
  rfl

/-! Steps -/

section Steps

variable {host after : Host} {mounted mounted' : Host.Mounted}

theorem onHost_run (act : Host → α × Host) (host : Host) (written : List Bytes) :
    (onHost act).run ⟨host, written⟩ = (.ok (act host).1, ⟨(act host).2, written⟩) :=
  rfl

theorem openImage_run {name : String} (opens : host.openImage name = (.ok mounted, after))
    (written : List Bytes) :
    (openImage name).run ⟨host, written⟩ = (.ok mounted, ⟨after, written⟩) := by
  rw [openImage, Command.bind_ok (onHost_run ..), opens]
  rfl

theorem perform_run {operation : Image.Operation} {answer : Except Halt Image.Answer}
    (performs : host.perform mounted operation = (answer, mounted', after)) (written : List Bytes) :
    (perform mounted operation).run ⟨host, written⟩ =
      (.ok (answer, mounted'), ⟨after, written⟩) := by
  rw [perform, onHost_run, performs]

theorem within_run (context : String) (value : α) (console : Console) :
    (within context (.ok value)).run console = (.ok value, console) :=
  rfl

theorem closeImage_run (host : Host) (mounted : Host.Mounted) (written : List Bytes) :
    (closeImage mounted).run ⟨host, written⟩ = (.ok (), ⟨(host.closeImage mounted).2, written⟩) :=
  rfl

theorem writeLine_run (line : String) (console : Console) :
    (writeLine line).run console =
      (.ok (), { console with written := Text.bytesOf (line ++ "\n") :: console.written }) :=
  rfl

end Steps

/-! Arguments -/

/-- Neither a flag nor followed by the value of one. -/
def Plain (argument : String) : Prop :=
  ¬ (valueFlags.contains argument = true ∨ argument.startsWith "--" = true)

theorem positional_sublist (arguments : List String) :
    (positional arguments).Sublist arguments := by
  fun_induction positional arguments with
  | case1 => exact .slnil
  | case2 argument _ => exact .cons argument .slnil
  | case3 argument _ => exact .refl [argument]
  | case4 argument next rest _ induction => exact .cons argument (.cons next induction)
  | case5 argument next rest _ _ induction => exact .cons argument induction
  | case6 argument next rest _ _ induction => exact .cons_cons argument induction

theorem ne_cons_of_sublist {arguments kept : List String} (skips : kept.Sublist arguments)
    (argument : String) : kept ≠ argument :: arguments := by
  rintro rfl
  exact absurd skips.length_le (by simp)

/-- Where no argument is skipped there is no flag. -/
theorem positional_eq_self {arguments : List String} :
    positional arguments = arguments ↔ ∀ argument ∈ arguments, Plain argument := by
  fun_induction positional arguments with
  | case1 => simp
  | case2 argument flag =>
      have flagged : ¬ Plain argument := by
        simpa only [Plain, not_not, Bool.or_eq_true] using flag
      simp [flagged]
  | case3 argument plain =>
      have isPlain : Plain argument := by
        simpa only [Plain, Bool.or_eq_true] using plain
      simp [isPlain]
  | case4 argument next rest flag _ =>
      have flagged : ¬ Plain argument := not_not_intro (.inl flag)
      have skips := (positional_sublist rest).trans (List.sublist_cons_self next rest)
      simp [ne_cons_of_sublist skips, flagged]
  | case5 argument next rest _ flag _ =>
      have flagged : ¬ Plain argument := not_not_intro (.inr flag)
      have skips := positional_sublist (next :: rest)
      simp [ne_cons_of_sublist skips, flagged]
  | case6 argument next rest plain plain' induction =>
      have isPlain : Plain argument := not_or.mpr ⟨plain, plain'⟩
      simp [induction, isPlain]

theorem positional_eq_of_length {arguments : List String}
    (all : (positional arguments).length = arguments.length) : positional arguments = arguments :=
  (positional_sublist arguments).eq_of_length all

section Dispatch

variable {image path source : String}

theorem dispatch_put (plain : positional [image, path, source] = [image, path, source]) :
    dispatch ["put", image, path, source] = copyIn image path source := by
  unfold dispatch
  dsimp only
  rw [plain]
  rfl

theorem dispatch_put_of_ne (flagged : positional [image, path, source] ≠ [image, path, source]) :
    dispatch ["put", image, path, source] = expected "put" "<image> <path> <host-file>" := by
  have fewer : (positional [image, path, source]).length ≠ 3 := mt positional_eq_of_length flagged
  unfold dispatch
  dsimp only
  rcases isRest : positional [image, path, source] with _ | ⟨_, _ | ⟨_, _ | ⟨_, _ | _⟩⟩⟩
  case cons.cons.cons.nil => exact absurd (congrArg List.length isRest) fewer
  all_goals rfl

theorem dispatch_cat (plain : positional [image, path] = [image, path]) :
    dispatch ["cat", image, path] = copyOut image path := by
  unfold dispatch
  dsimp only
  rw [plain]
  rfl

theorem dispatch_cat_of_ne (flagged : positional [image, path] ≠ [image, path]) :
    dispatch ["cat", image, path] = expected "cat" "<image> <path>" := by
  have fewer : (positional [image, path]).length ≠ 2 := mt positional_eq_of_length flagged
  unfold dispatch
  dsimp only
  rcases isRest : positional [image, path] with _ | ⟨_, _ | ⟨_, _ | _⟩⟩
  case cons.cons.nil => exact absurd (congrArg List.length isRest) fewer
  all_goals rfl

theorem dispatch_check (plain : positional [image] = [image]) :
    dispatch ["check", image] = check image ([image].contains "--json") := by
  unfold dispatch
  dsimp only
  rw [plain]
  rfl

end Dispatch

/-- A command that lacks arguments says so, and leaves the host alone. -/
theorem run_of_expected {arguments : List String} {command usage : String}
    (misused : dispatch arguments = expected command usage) (host : Host) :
    run arguments host =
      (⟨1, [], "error: " ++ ": ".intercalate [s!"{command} requires {usage}"] ++ "\n"⟩, host) := by
  rw [run, misused]
  rfl

end CommandLine

end ImageFs
