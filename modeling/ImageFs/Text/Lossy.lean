import ImageFs.Bytes

/-!
Reading bytes as text. Every maximal malformed piece is read as one replacement character, so any
byte string has a reading. Main statement: the bytes of a text are read as that text.
-/

namespace ImageFs.Text

def bytesOf (text : String) : Bytes :=
  text.toList.flatMap String.utf8EncodeChar

def replacement : Char := '\uFFFD'

/-! The length of a malformed piece -/

def isContinuation (byte : UInt8) : Bool :=
  0x80 ≤ byte && byte ≤ 0xBF

/-- Whether a sequence of three or four bytes may start with these two. -/
def mayFollow (lead second : UInt8) : Bool :=
  if lead = 0xE0 then 0xA0 ≤ second && second ≤ 0xBF
  else if lead = 0xED then 0x80 ≤ second && second ≤ 0x9F
  else if lead = 0xF0 then 0x90 ≤ second && second ≤ 0xBF
  else if lead = 0xF4 then 0x80 ≤ second && second ≤ 0x8F
  else 0xE1 ≤ lead && lead ≤ 0xF3 && isContinuation second

/-- How many bytes one replacement character stands for: those that a longer input could still
have completed to a character, and at least one. -/
def malformedLength : Bytes → Nat
  | lead :: second :: rest =>
      if !mayFollow lead second then 1
      else if lead < 0xF0 then 2
      else
        match rest with
        | third :: _ => if isContinuation third then 3 else 2
        | [] => 2
  | _ => 1

/-! Reading -/

/-- The first character of a byte string, with the number of bytes that it takes. -/
def firstChar (bytes : Bytes) : Char × Nat :=
  match (bytes.take 4).toByteArray.utf8DecodeChar? 0 with
  | some char => (char, char.utf8Size)
  | none => (replacement, malformedLength bytes)

/-- The characters read after passing over `skip` bytes. -/
def charsAfter : Nat → Bytes → List Char
  | _, [] => []
  | skip + 1, _ :: rest => charsAfter skip rest
  | 0, lead :: rest =>
      (firstChar (lead :: rest)).1 ::
        charsAfter ((firstChar (lead :: rest)).2 - 1) rest

def ofBytes (bytes : Bytes) : String :=
  String.ofList (charsAfter 0 bytes)

theorem charsAfter_append (skipped rest : Bytes) :
    charsAfter skipped.length (skipped ++ rest) = charsAfter 0 rest := by
  induction skipped with
  | nil => rfl
  | cons byte skipped induction => simpa [charsAfter] using induction

theorem firstChar_encoded (char : Char) (rest : Bytes) :
    firstChar (String.utf8EncodeChar char ++ rest) = (char, char.utf8Size) := by
  have short : (String.utf8EncodeChar char).length ≤ 4 := by
    rw [String.length_utf8EncodeChar]
    exact Char.utf8Size_le_four char
  have split : ((String.utf8EncodeChar char ++ rest).take 4).toByteArray =
      (String.utf8EncodeChar char).toByteArray ++
        (rest.take (4 - (String.utf8EncodeChar char).length)).toByteArray := by
    rw [List.take_append, List.take_of_length_le short, List.toByteArray_append]
  simp [firstChar, split, ByteArray.utf8DecodeChar?_utf8EncodeChar_append]

theorem charsAfter_encoded (char : Char) (rest : Bytes) :
    charsAfter 0 (String.utf8EncodeChar char ++ rest) = char :: charsAfter 0 rest := by
  have first := firstChar_encoded char rest
  have length : (String.utf8EncodeChar char).length = char.utf8Size :=
    String.length_utf8EncodeChar char
  have positive : 0 < char.utf8Size := Char.utf8Size_pos char
  cases encoded : String.utf8EncodeChar char with
  | nil => rw [encoded] at length; simp only [List.length_nil] at length; omega
  | cons lead tail =>
      rw [encoded] at first length
      have tailLength : char.utf8Size - 1 = tail.length := by
        simp only [List.length_cons] at length
        omega
      simp only [List.cons_append] at first ⊢
      rw [charsAfter, first, tailLength, charsAfter_append]

theorem charsAfter_flatMap (chars : List Char) :
    charsAfter 0 (chars.flatMap String.utf8EncodeChar) = chars := by
  induction chars with
  | nil => rfl
  | cons char chars induction =>
      rw [List.flatMap_cons, charsAfter_encoded, induction]

theorem ofBytes_bytesOf (text : String) : ofBytes (bytesOf text) = text := by
  rw [ofBytes, bytesOf, charsAfter_flatMap, String.ofList_toList]

end ImageFs.Text
