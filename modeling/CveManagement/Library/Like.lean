import Mathlib.Computability.Language

/-!
# `LIKE` patterns

A pattern is a text in which `%` stands for any text, `_` for any character, and a
backslash takes the next character literally. `Like.tokens` reads a pattern,
`Like.fits` decides whether a text fits, and `Like.language` says what fits: the
language of a token list is the product of the languages of its tokens
(`Like.fits_iff`).

Characters are compared up to a relation given by a function `fold`, so that the same
definitions serve `LIKE` and `ILIKE`. A pattern that ends in a lone backslash, which is an
error, is read as if the backslash were not there; this makes reading a pattern commute
with cutting it at a literal separator (`Like.tokens_append_cons`), whatever stands before
the separator.
-/

namespace Like

/-- The tokens of a pattern. -/
inductive Token
  /-- A character. -/
  | lit (c : Char)
  /-- `_`. -/
  | one
  /-- `%`. -/
  | any
  deriving DecidableEq, Repr

/-- A pattern, read. -/
def tokens : List Char → List Token
  | [] => []
  | ['\\'] => []
  | '\\' :: c :: s => .lit c :: tokens s
  | c :: s => (if c = '%' then .any else if c = '_' then .one else .lit c) :: tokens s

variable {β : Type} (fold : Char → β)

/-- The text fits the pattern. -/
def fits [DecidableEq β] : List Token → List Char → Bool
  | [], s => s.isEmpty
  | .lit _ :: _, [] => false
  | .lit c :: ts, d :: s => fold c == fold d && fits ts s
  | .one :: _, [] => false
  | .one :: ts, _ :: s => fits ts s
  | .any :: ts, s => s.tails.any (fits ts)

/-- The texts that fit one token. -/
def Token.language : Token → Language Char
  | .lit c => {s | ∃ d, fold c = fold d ∧ s = [d]}
  | .one => {s | ∃ d, s = [d]}
  | .any => ⊤

/-- **The texts that fit a pattern.** -/
def language (ts : List Token) : Language Char := (ts.map (Token.language fold)).prod

variable {fold}

/-! ### Deciding a pattern -/

@[simp] theorem language_nil : language fold [] = 1 := rfl

@[simp] theorem language_cons (t : Token) (ts : List Token) :
    language fold (t :: ts) = t.language fold * language fold ts := List.prod_cons

theorem language_append (ts ts' : List Token) :
    language fold (ts ++ ts') = language fold ts * language fold ts' := by
  rw [language, List.map_append, List.prod_append, language, language]

/-- What fits two patterns in a row. -/
theorem mem_language_append {ts ts' : List Token} {s : List Char} :
    s ∈ language fold (ts ++ ts') ↔
      ∃ a b, s = a ++ b ∧ a ∈ language fold ts ∧ b ∈ language fold ts' := by
  rw [language_append, Language.mem_mul]
  constructor
  · rintro ⟨a, ha, b, hb, rfl⟩
    exact ⟨a, b, rfl, ha, hb⟩
  · rintro ⟨a, b, rfl, ha, hb⟩
    exact ⟨a, ha, b, hb, rfl⟩

/-- What fits a `%` and a pattern. -/
theorem mem_language_any {ts : List Token} {s : List Char} :
    s ∈ language fold (.any :: ts) ↔ ∃ a b, s = a ++ b ∧ b ∈ language fold ts := by
  rw [language_cons, Language.mem_mul]
  constructor
  · rintro ⟨a, -, b, hb, rfl⟩
    exact ⟨a, b, rfl, hb⟩
  · rintro ⟨a, b, rfl, hb⟩
    exact ⟨a, trivial, b, hb, rfl⟩

/-- What fits a character that is like itself only, and a pattern. -/
theorem mem_language_lit {c : Char} (hc : ∀ d, fold c = fold d → d = c) {ts : List Token}
    {s : List Char} :
    s ∈ language fold (.lit c :: ts) ↔ ∃ b, s = c :: b ∧ b ∈ language fold ts := by
  rw [language_cons, Language.mem_mul]
  constructor
  · rintro ⟨a, ⟨d, hd, rfl⟩, b, hb, rfl⟩
    exact ⟨b, by rw [hc d hd]; rfl, hb⟩
  · rintro ⟨b, rfl, hb⟩
    exact ⟨[c], ⟨c, rfl, rfl⟩, b, hb, rfl⟩

/-- **The matcher decides the language of a pattern.** -/
theorem fits_iff [DecidableEq β] {ts : List Token} {s : List Char} :
    fits fold ts s = true ↔ s ∈ language fold ts := by
  induction ts generalizing s with
  | nil => simp [fits, Language.mem_one]
  | cons t ts ih =>
    rw [language_cons, Language.mem_mul]
    cases t with
    | lit c =>
      cases s with
      | nil =>
        refine iff_of_false (by simp [fits]) ?_
        rintro ⟨a, ⟨d, -, rfl⟩, b, -, h⟩
        cases h
      | cons d s =>
        rw [fits, Bool.and_eq_true, beq_iff_eq, ih]
        constructor
        · rintro ⟨hfold, hs⟩
          exact ⟨[d], ⟨d, hfold, rfl⟩, s, hs, rfl⟩
        · rintro ⟨a, ⟨d', hfold, rfl⟩, b, hb, h⟩
          obtain ⟨rfl, rfl⟩ := List.cons.inj h
          exact ⟨hfold, hb⟩
    | one =>
      cases s with
      | nil =>
        refine iff_of_false (by simp [fits]) ?_
        rintro ⟨a, ⟨d, rfl⟩, b, -, h⟩
        cases h
      | cons d s =>
        rw [fits, ih]
        constructor
        · intro hs
          exact ⟨[d], ⟨d, rfl⟩, s, hs, rfl⟩
        · rintro ⟨a, ⟨d', rfl⟩, b, hb, h⟩
          obtain ⟨rfl, rfl⟩ := List.cons.inj h
          exact hb
    | any =>
      -- the suffixes that are tried are the ways to cut the text in two
      rw [fits, List.any_eq_true]
      constructor
      · rintro ⟨b, hb, hfits⟩
        obtain ⟨a, h⟩ := (List.mem_tails _ _).mp hb
        exact ⟨a, trivial, b, ih.mp hfits, h⟩
      · rintro ⟨a, -, b, hb, h⟩
        exact ⟨b, (List.mem_tails _ _).mpr ⟨a, h⟩, ih.mpr hb⟩

/-! ### Cutting a pattern at a separator -/

/-- A character that means itself in a pattern. -/
def Plain (c : Char) : Prop := c ≠ '\\' ∧ c ≠ '%' ∧ c ≠ '_'

instance (c : Char) : Decidable (Plain c) := inferInstanceAs (Decidable (_ ∧ _))

theorem tokens_cons_of_ne {c : Char} (h : c ≠ '\\') (s : List Char) :
    tokens (c :: s) = (if c = '%' then .any else if c = '_' then .one else .lit c) :: tokens s := by
  rw [tokens]
  · exact fun hc => absurd hc h
  · exact fun _ _ hc => absurd hc h

theorem tokens_cons_of_plain {c : Char} (h : Plain c) (s : List Char) :
    tokens (c :: s) = .lit c :: tokens s := by
  rw [tokens_cons_of_ne h.1, if_neg h.2.1, if_neg h.2.2]

/-- **A pattern can be cut at a separator**: what stands before it and what stands behind
it are read on their own. An unfinished escape before the separator takes the separator,
which means itself anyway. -/
theorem tokens_append_cons {c : Char} (hc : Plain c) (s s' : List Char) :
    tokens (s ++ c :: s') = tokens s ++ .lit c :: tokens s' := by
  induction s using tokens.induct with
  | case1 => exact tokens_cons_of_plain hc s'
  | case2 => rfl
  | case3 d s ih =>
    rw [List.cons_append, List.cons_append, tokens, ih, tokens]
    rfl
  | case4 d s h₁ h₂ ih =>
    have hd : d ≠ '\\' := by
      rintro rfl
      cases s with
      | nil => exact h₁ rfl rfl
      | cons e s => exact h₂ e s rfl rfl
    rw [List.cons_append, tokens_cons_of_ne hd, ih, tokens_cons_of_ne hd]
    rfl

/-- **A text without backslashes fits itself**, and every text that differs from it by
`fold` only. -/
theorem mem_language_of_fold {s t : List Char} (h : '\\' ∉ s)
    (hfold : s.map fold = t.map fold) : t ∈ language fold (tokens s) := by
  induction s generalizing t with
  | nil =>
    rw [List.map_nil, eq_comm, List.map_eq_nil_iff] at hfold
    rw [hfold]
    exact Language.nil_mem_one
  | cons c s ih =>
    obtain ⟨hc, hs⟩ := not_or.mp (mt List.mem_cons.mpr h)
    cases t with
    | nil => cases hfold
    | cons d t =>
      obtain ⟨hcd, hst⟩ := List.cons.inj hfold
      rw [tokens_cons_of_ne (Ne.symm hc), language_cons, Language.mem_mul]
      refine ⟨[d], ?_, t, ih hs hst, rfl⟩
      -- a wildcard in the text takes its own character as well
      by_cases hany : c = '%'
      · rw [if_pos hany]
        trivial
      · rw [if_neg hany]
        by_cases hone : c = '_'
        · rw [if_pos hone]
          exact ⟨d, rfl⟩
        · rw [if_neg hone]
          exact ⟨d, hcd, rfl⟩

/-- **A text without `%` and backslashes fits texts of its own length only.** -/
theorem length_eq_of_mem_language {s t : List Char} (hs : ∀ c ∈ s, c ≠ '\\' ∧ c ≠ '%')
    (h : t ∈ language fold (tokens s)) : t.length = s.length := by
  induction s generalizing t with
  | nil =>
    obtain rfl := Language.mem_one _ |>.mp h
    rfl
  | cons c s ih =>
    obtain ⟨⟨hescape, hany⟩, hs⟩ := List.forall_mem_cons.mp hs
    rw [tokens_cons_of_ne hescape, if_neg hany, language_cons, Language.mem_mul] at h
    obtain ⟨a, ha, b, hb, rfl⟩ := h
    have hone : a.length = 1 := by
      split at ha
      · obtain ⟨d, rfl⟩ := ha
        rfl
      · obtain ⟨d, -, rfl⟩ := ha
        rfl
    rw [List.length_append, hone, ih hs hb, List.length_cons, Nat.add_comm]

/-- **Where a text contains the other, only itself fits it**: what fits has its length. -/
theorem mem_language_iff_of_infix {s t : List Char} (hs : ∀ c ∈ s, c ≠ '\\' ∧ c ≠ '%')
    (h : s <:+: t ∨ t <:+: s) : t ∈ language fold (tokens s) ↔ t = s := by
  constructor
  · intro hfits
    have hlength := length_eq_of_mem_language hs hfits
    rcases h with h | h
    · exact (h.sublist.eq_of_length hlength.symm).symm
    · exact h.sublist.eq_of_length hlength
  · rintro rfl
    exact mem_language_of_fold (fun hc => (hs _ hc).1 rfl) rfl

/-- What fits a text of literals is the text, up to `fold`. -/
theorem mem_language_lits {s t : List Char} :
    t ∈ language fold (s.map .lit) ↔ s.map fold = t.map fold := by
  induction s generalizing t with
  | nil =>
    rw [List.map_nil, language_nil, Language.mem_one, List.map_nil, eq_comm (a := []),
      List.map_eq_nil_iff]
  | cons c s ih =>
    rw [List.map_cons, language_cons, Language.mem_mul]
    constructor
    · rintro ⟨a, ⟨d, hcd, rfl⟩, b, hb, rfl⟩
      rw [List.map_cons, List.singleton_append, List.map_cons, hcd, ih.mp hb]
    · intro h
      cases t with
      | nil => cases h
      | cons d t =>
        obtain ⟨hcd, hst⟩ := List.cons.inj h
        exact ⟨[d], ⟨d, hcd, rfl⟩, t, ih.mpr hst, rfl⟩

end Like
