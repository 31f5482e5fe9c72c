import MultiWallet.Json.Reader

set_option autoImplicit false

namespace MultiWallet.Toml

def isSpace (c : Char) : Bool := c == ' ' || c == '\t'

def skipSpaces (text : List Char) : List Char := text.dropWhile isSpace

def isPlain (c : Char) : Bool := c == '\t' || (32 ≤ c.toNat && c.toNat != 127)

def newline? : List Char → Option (List Char)
  | '\n' :: rest => some rest
  | '\x0d' :: '\n' :: rest => some rest
  | _ => none

def skipComment : List Char → List Char
  | '#' :: rest => rest.dropWhile isPlain
  | text => text

def isBareKey (c : Char) : Bool := c.isAlphanum || c == '-' || c == '_'

def readCode (text : List Char) (width : Nat) : Option (Char × List Char) := do
  let digits := text.take width
  let values ← digits.mapM Text.hexValueOf?
  let n := values.foldl (fun n d => n * 16 + d) 0
  if digits.length = width ∧ n.isValidChar then some (Char.ofNat n, text.drop width) else none

theorem length_of_readCode {text rest : List Char} {width : Nat} {c : Char}
    (h : readCode text width = some (c, rest)) : rest.length ≤ text.length := by
  simp only [readCode, Option.bind_eq_bind, Option.bind_eq_some_iff] at h
  obtain ⟨_, _, h⟩ := h
  split at h
  · simp only [Option.some.injEq, Prod.mk.injEq] at h
    rw [← h.2, List.length_drop]
    omega
  · cases h

def escapes : List (Char × Char) :=
  [('b', Char.ofNat 8), ('t', '\t'), ('n', '\n'), ('f', Char.ofNat 12), ('r', '\x0d'), ('"', '"'),
   ('\\', '\\')]

def readEscape : List Char → Option (Char × List Char)
  | 'u' :: rest => readCode rest 4
  | 'U' :: rest => readCode rest 8
  | c :: rest => (escapes.lookup c).map (·, rest)
  | [] => none

theorem length_of_readEscape {text rest : List Char} {c : Char}
    (h : readEscape text = some (c, rest)) : rest.length < text.length := by
  unfold readEscape at h
  split at h
  · have := length_of_readCode h
    simp only [List.length_cons]
    omega
  · have := length_of_readCode h
    simp only [List.length_cons]
    omega
  · simp only [Option.map_eq_some_iff, Prod.mk.injEq] at h
    obtain ⟨_, _, _, rfl⟩ := h
    simp
  · cases h

def readBasic (seen : List Char) (text : List Char) : Option (String × List Char) :=
  match text with
  | [] => none
  | '"' :: rest => some (String.ofList seen.reverse, rest)
  | '\\' :: rest =>
    match _h : readEscape rest with
    | some (c, rest') => readBasic (c :: seen) rest'
    | none => none
  | c :: rest => if isPlain c then readBasic (c :: seen) rest else none
termination_by text.length
decreasing_by
  · have := length_of_readEscape _h
    simp only [List.length_cons]
    omega
  · simp

def readLiteral (seen : List Char) : List Char → Option (String × List Char)
  | [] => none
  | '\'' :: rest => some (String.ofList seen.reverse, rest)
  | c :: rest => if isPlain c then readLiteral (c :: seen) rest else none

def skipBlankLines : List Char → List Char
  | '\x0d' :: '\n' :: rest => skipBlankLines rest
  | c :: rest => if isSpace c || c == '\n' then skipBlankLines rest else c :: rest
  | [] => []

theorem length_skipBlankLines_le (text : List Char) :
    (skipBlankLines text).length ≤ text.length := by
  fun_induction skipBlankLines text with
  | case1 rest ih =>
    simp only [List.length_cons]
    omega
  | case2 c rest _ _ ih =>
    simp only [List.length_cons]
    omega
  | case3 => exact Nat.le_refl _
  | case4 => exact Nat.le_refl _

-- Blanks after a backslash at the end of a line; they have to hold a line end.
def joinLines? (text : List Char) : Option (List Char) :=
  match newline? (skipSpaces text) with
  | some rest => some (skipBlankLines rest)
  | none => none

theorem length_of_newline? {text rest : List Char} (h : newline? text = some rest) :
    rest.length < text.length := by
  unfold newline? at h
  split at h <;> simp only [Option.some.injEq, reduceCtorEq] at h <;> subst h <;>
    simp only [List.length_cons] <;> omega

theorem length_of_joinLines? {text rest : List Char} (h : joinLines? text = some rest) :
    rest.length < text.length := by
  unfold joinLines? at h
  split at h
  next r hr =>
    simp only [Option.some.injEq] at h
    subst h
    have h₁ := length_skipBlankLines_le r
    have h₂ := length_of_newline? hr
    have h₃ : (skipSpaces text).length ≤ text.length := (List.dropWhile_suffix isSpace).length_le
    omega
  · cases h

-- Three quotes end the text, and one or two more right before them belong to it.
def closing? (quote : Char) (text : List Char) : Option (List Char × List Char) :=
  let count := min 5 (text.takeWhile (· == quote)).length
  if 3 ≤ count then some (List.replicate (count - 3) quote, text.drop count) else none

def readLongBasic (seen : List Char) (text : List Char) : Option (String × List Char) :=
  match closing? '"' text with
  | some (tail, rest) => some (String.ofList (seen.reverse ++ tail), rest)
  | none =>
    match text with
    | [] => none
    | '\\' :: rest =>
      match _h : joinLines? rest with
      | some rest' => readLongBasic seen rest'
      | none =>
        match _h : readEscape rest with
        | some (c, rest') => readLongBasic (c :: seen) rest'
        | none => none
    | '\x0d' :: '\n' :: rest => readLongBasic ('\n' :: seen) rest
    | c :: rest => if isPlain c || c == '\n' then readLongBasic (c :: seen) rest else none
termination_by text.length
decreasing_by
  · have := length_of_joinLines? _h
    simp only [List.length_cons]
    omega
  · have := length_of_readEscape _h
    simp only [List.length_cons]
    omega
  · simp only [List.length_cons]
    omega
  · simp

def readLongLiteral (seen : List Char) (text : List Char) : Option (String × List Char) :=
  match closing? '\'' text with
  | some (tail, rest) => some (String.ofList (seen.reverse ++ tail), rest)
  | none =>
    match text with
    | [] => none
    | '\x0d' :: '\n' :: rest => readLongLiteral ('\n' :: seen) rest
    | c :: rest => if isPlain c || c == '\n' then readLongLiteral (c :: seen) rest else none
termination_by text.length
decreasing_by
  · simp only [List.length_cons]
    omega
  · simp

def afterNewline (text : List Char) : List Char := (newline? text).getD text

def readQuoted : List Char → Option (String × List Char)
  | '"' :: '"' :: '"' :: rest => readLongBasic [] (afterNewline rest)
  | '"' :: rest => readBasic [] rest
  | '\'' :: '\'' :: '\'' :: rest => readLongLiteral [] (afterNewline rest)
  | '\'' :: rest => readLiteral [] rest
  | _ => none

def readKey : List Char → Option (String × List Char)
  | '"' :: rest => readBasic [] rest
  | '\'' :: rest => readLiteral [] rest
  | text =>
    let key := text.takeWhile isBareKey
    if key.isEmpty then none else some (String.ofList key, text.dropWhile isBareKey)

def readKeysWithin : Nat → List Char → Option (List String × List Char)
  | 0, _ => none
  | fuel + 1, text => do
    let (key, rest) ← readKey (skipSpaces text)
    match skipSpaces rest with
    | '.' :: rest => do
      let (keys, rest) ← readKeysWithin fuel rest
      return (key :: keys, rest)
    | rest => return ([key], rest)

def keyLimit : Nat := 79

def readKeys (text : List Char) : Option (List String × List Char) :=
  (readKeysWithin (text.length + 1) text).filter fun (keys, _) => keys.length ≤ keyLimit

end MultiWallet.Toml
