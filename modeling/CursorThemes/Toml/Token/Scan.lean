import CursorThemes.Toml.Token.Quotation

/-! # From characters to tokens

`Token.scan?` cuts a document into tokens. It refuses characters that may not occur where they do, and
texts that do not end. -/

namespace CursorThemes.Toml.Token

/-- The first token of a document that is not empty, unless a comment stands there, and what follows
it. A carriage return has to belong to the end of a line. -/
def first? (c : Char) (rest : List Char) : Option (Option Token × List Char) :=
  if isSpace c then
    some (some (blank (c :: rest.takeWhile isSpace)), rest.dropWhile isSpace)
  else if c = '#' then some (none, rest.dropWhile isPlain)
  else if c = '\n' then some (some newline, rest)
  else if c = '\r' then
    match rest with
    | '\n' :: rest => some (some newline, rest)
    | _ => none
  else if c = '"' ∨ c = '\'' then (text? (c :: rest)).map fun (token, rest) => (some token, rest)
  else
    match mark? c with
    | some token => some (some token, rest)
    | none => some (some (bare (c :: rest.takeWhile isBare)), rest.dropWhile isBare)

/-- The first token uses characters up. -/
theorem length_of_first? {c : Char} {rest : List Char} {found : Option Token × List Char}
    (h : first? c rest = some found) : found.2.length < (c :: rest).length := by
  unfold first? at h
  have dropped (p : Char → Bool) : (rest.dropWhile p).length ≤ rest.length :=
    (List.dropWhile_sublist p).length_le
  simp only [List.length_cons]
  split at h
  · cases h
    have := dropped isSpace
    simp only
    omega
  · split at h
    · cases h
      have := dropped isPlain
      simp only
      omega
    · split at h
      · cases h
        simp
      · split at h
        · split at h
          · cases h
            simp only [List.length_cons]
            omega
          · cases h
        · split at h
          · obtain ⟨inner, isInner, rfl⟩ := Option.map_eq_some_iff.1 h
            have := length_of_text? isInner
            simpa using this
          · split at h
            · cases h
              simp
            · cases h
              have := dropped isBare
              simp only
              omega

/-- **The tokens of a document.** -/
def scan? (chars : List Char) : Option (List Token) :=
  match chars with
  | [] => some []
  | c :: rest =>
    match _ : first? c rest with
    | none => none
    | some (token, later) => (scan? later).map fun tokens => token.toList ++ tokens
termination_by chars.length
decreasing_by exact length_of_first? (by assumption)

/-- The empty document has no tokens. -/
@[simp] theorem scan?_nil : scan? [] = some [] := by
  rw [scan?]

/-- Cons reading of `scan?`: the first token, if there is one, and then those of the rest. -/
theorem scan?_cons {c : Char} {rest later : List Char} {token : Option Token}
    (h : first? c rest = some (token, later)) :
    scan? (c :: rest) = (scan? later).map fun tokens => token.toList ++ tokens := by
  rw [scan?]
  split
  · simp_all
  · simp_all

end CursorThemes.Toml.Token
