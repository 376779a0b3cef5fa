import PayloadModels.Proofs.Json.Written

/-!
# Skipped values

A value that is wanted and a value that is skipped are read by one grammar, and where the one is
read the other ends at the same place (`exists_readValue_skip`). The converse fails: a skipped
value may be nested to any depth, its numbers may be out of range, and its surrogates need no
partners. A pair of surrogates is one character of a string that is wanted and two escapes of one
that is skipped.
-/

namespace PayloadModels.Json

variable {cs rest : List Char} {value : Json} {depth : Nat}

/-! ## Scalars -/

/-- Digits that are read are skipped alike. -/
theorem readDigits_skip {digits : List Char}
    (h : readDigits (.build depth) cs = .ok (digits, rest)) :
    readDigits .skip cs = .ok (digits, rest) := by
  unfold readDigits at h ⊢
  split at h
  · cases h
  · exact h

/-- A whole part that is read is skipped alike. -/
theorem readWhole_skip {digits : List Char} (h : readWhole (.build depth) cs = .ok (digits, rest)) :
    readWhole .skip cs = .ok (digits, rest) := by
  unfold readWhole at h ⊢
  split at h
  · exact h
  · exact readDigits_skip h

/-- A fraction that is read is skipped alike. -/
theorem readFraction_skip {digits : Option (List Char)}
    (h : readFraction (.build depth) cs = .ok (digits, rest)) :
    readFraction .skip cs = .ok (digits, rest) := by
  unfold readFraction at h ⊢
  split at h
  · obtain ⟨found, hdigits, h⟩ := exists_of_bind_eq_ok h
    rw [readDigits_skip hdigits]
    exact h
  · exact h

/-- An exponent that is read is skipped alike. -/
theorem readExponent_skip {exponent : Option (Bool × List Char)}
    (h : readExponent (.build depth) cs = .ok (exponent, rest)) :
    readExponent .skip cs = .ok (exponent, rest) := by
  unfold readExponent at h ⊢
  split at h
  · split at h
    · next hmark =>
      obtain ⟨found, hdigits, h⟩ := exists_of_bind_eq_ok h
      simp only [if_pos hmark, readDigits_skip hdigits]
      exact h
    · next hmark =>
      rw [if_neg hmark]
      exact h
  · exact h

/-- A numeral that is read is skipped alike. -/
theorem readNumeral_skip {negative : Bool} {numeral : Numeral}
    (h : readNumeral (.build depth) negative cs = .ok (numeral, rest)) :
    readNumeral .skip negative cs = .ok (numeral, rest) := by
  obtain ⟨whole, hwhole, h⟩ := exists_of_bind_eq_ok h
  obtain ⟨fraction, hfraction, h⟩ := exists_of_bind_eq_ok h
  obtain ⟨exponent, hexponent, h⟩ := exists_of_bind_eq_ok h
  simp only [readNumeral, readWhole_skip hwhole, readFraction_skip hfraction,
    readExponent_skip hexponent, bind, Except.bind]
  exact h

/-- A number that is read is skipped up to the same place. -/
theorem exists_readNumber_skip {negative : Bool} {number : Number}
    (h : readNumber (.build depth) negative cs = .ok (number, rest)) :
    ∃ skipped, readNumber .skip negative cs = .ok (skipped, rest) := by
  obtain ⟨⟨numeral, after⟩, hnumeral, h⟩ := exists_of_bind_eq_ok h
  obtain ⟨_, _, h⟩ := exists_of_bind_eq_ok h
  cases h
  refine ⟨.int 0, ?_⟩
  rw [readNumber, readNumeral_skip hnumeral]
  rfl

/-- An escape that is read in one step is skipped in one, or in two when it is a pair of
surrogates. -/
theorem exists_readEscape_skip {c : Char} (h : readEscape (.build depth) cs = .ok (c, rest)) :
    (∃ skipped, readEscape .skip cs = .ok (skipped, rest)) ∨
      ∃ high low next, readEscape .skip cs = .ok (high, '\\' :: next) ∧
        readEscape .skip next = .ok (low, rest) := by
  unfold readEscape at h
  split at h
  case h_10 next =>
    obtain ⟨⟨n, after⟩, hhex, h⟩ := exists_of_bind_eq_ok h
    have hskip : readEscape .skip ('u' :: next) = .ok (Char.ofNat n, after) := by
      rw [readEscape, readUnicode, hhex]
      rfl
    dsimp only at h
    split at h
    · cases h
    · split at h
      · unfold readLowSurrogate at h
        split at h
        · cases h
        · cases h
        · next later =>
          obtain ⟨⟨low, last⟩, hlow, h⟩ := exists_of_bind_eq_ok h
          refine .inr ⟨_, Char.ofNat low, _, hskip, ?_⟩
          have hlast : last = rest := by
            dsimp only at h
            split at h
            · exact congrArg Prod.snd (Except.ok.inj h)
            · cases h
          rw [readEscape, readUnicode, hlow, hlast]
          rfl
        · cases h
        · cases h
      · cases h
        exact .inl ⟨_, hskip⟩
  all_goals
    first
    | cases h; exact .inl ⟨_, by rw [readEscape]⟩
    | cases h

/-- A string that is read is skipped up to the same place. -/
theorem exists_readString_skip {s : List Char} (h : readString (.build depth) cs = .ok (s, rest)) :
    ∃ skipped, readString .skip cs = .ok (skipped, rest) := by
  fun_induction readString (.build depth) cs generalizing s with
  | case1 => cases h
  | case2 after =>
    cases h
    exact ⟨[], by rw [readString]⟩
  | case3 => cases h
  | case4 start c after hescape hlt ih =>
    obtain ⟨⟨s, tail⟩, hs, h⟩ := exists_of_bind_eq_ok h
    cases h
    obtain ⟨skipped, hskipped⟩ := ih hs
    rcases exists_readEscape_skip hescape with ⟨c, hc⟩ | ⟨high, low, next, hhigh, hlow⟩
    · refine ⟨c :: skipped, ?_⟩
      rw [readString_escape, hc, Except.bind, hskipped, Except.map]
    · refine ⟨high :: low :: skipped, ?_⟩
      rw [readString_escape, hhigh, Except.bind, readString_escape, hlow, Except.bind, hskipped]
      rfl
  | case5 => cases h
  | case6 => contradiction
  | case7 c start hquote hescape hc ih =>
    obtain ⟨⟨s, tail⟩, hs, h⟩ := exists_of_bind_eq_ok h
    cases h
    obtain ⟨skipped, hskipped⟩ := ih hs
    refine ⟨c :: skipped, ?_⟩
    rw [readString_cons hquote hescape, if_neg hc, hskipped, Except.map]

/-- A scalar that is read is skipped up to the same place. -/
theorem exists_readScalar_skip (h : readScalar (.build depth) cs = .ok (value, rest)) :
    ∃ skipped, readScalar .skip cs = .ok (skipped, rest) := by
  unfold readScalar at h ⊢
  split at h
  · cases h
  · exact ⟨value, h⟩
  · exact ⟨value, h⟩
  · exact ⟨value, h⟩
  · obtain ⟨⟨s, _⟩, hs, h⟩ := exists_of_bind_eq_ok h
    cases h
    obtain ⟨skipped, hskipped⟩ := exists_readString_skip hs
    exact ⟨_, by simp only [hskipped]; rfl⟩
  · obtain ⟨⟨n, _⟩, hn, h⟩ := exists_of_bind_eq_ok h
    cases h
    obtain ⟨skipped, hskipped⟩ := exists_readNumber_skip hn
    exact ⟨_, by simp only [hskipped]; rfl⟩
  · split at h
    · next hdigit =>
      obtain ⟨⟨n, _⟩, hn, h⟩ := exists_of_bind_eq_ok h
      cases h
      obtain ⟨skipped, hskipped⟩ := exists_readNumber_skip hn
      exact ⟨_, by simp only [hdigit, if_true, hskipped]; rfl⟩
    · cases h

/-- A key that is read is skipped with its colon up to the same place. -/
theorem exists_readKeyColon_skip {key : String}
    (h : readKeyColon (.build depth) cs = .ok (key, rest)) :
    ∃ skipped, readKeyColon .skip cs = .ok (skipped, rest) := by
  obtain ⟨⟨_, after⟩, hkey, h⟩ := exists_of_bind_eq_ok h
  obtain ⟨_, hcolon, h⟩ := exists_of_bind_eq_ok h
  cases h
  unfold readKey at hkey
  split at hkey
  · obtain ⟨⟨s, _⟩, hs, hkey⟩ := exists_of_bind_eq_ok hkey
    cases hkey
    obtain ⟨skipped, hskipped⟩ := exists_readString_skip hs
    refine ⟨String.ofList skipped, ?_⟩
    simp only [readKeyColon, readKey, hskipped, bind, Except.bind, pure, Except.pure, hcolon]
  · cases hkey

/-! ## Containers -/

/-- Two open containers of one kind. -/
inductive Frame.SameKind : Frame → Frame → Prop where
  | list (items others : List Json) : SameKind (.list items) (.list others)
  | object (members others : Members) (key other : String) :
      SameKind (.object members key) (.object others other)

/-- Two tasks of one kind. -/
inductive Task.SameKind : Task → Task → Prop where
  | value : SameKind .value .value
  | place (value other : Json) : SameKind (.place value) (.place other)

/-- What can be read inside containers can be skipped inside containers of the same kinds, and both
end at one place. -/
theorem exists_readFrom_skip {frames others : List Frame} {task other : Task}
    (hframes : List.Forall₂ Frame.SameKind frames others) (htask : task.SameKind other)
    (h : readFrom (.build depth) frames task cs = .ok (value, rest)) :
    ∃ skipped, readFrom .skip others other cs = .ok (skipped, rest) := by
  -- By induction on the reading; the cases that have no result are left to the end.
  fun_induction readFrom (.build depth) frames task cs generalizing others other
  case case2 hopen _ _ _ hclose _ ih =>
    cases htask
    simp only [readFrom_value, hopen, hclose, Mode.isFull, Bool.false_eq_true, if_false]
    exact ih hframes (.place _ _) h
  case case4 hopen _ _ _ _ ih =>
    cases htask
    rw [readFrom_value, hopen]
    simp only [Mode.isFull, Bool.false_eq_true, if_false]
    exact ih (.cons (.list _ _) hframes) .value h
  case case6 hopen _ _ _ hclose _ ih =>
    cases htask
    simp only [readFrom_value, hopen, hclose, Mode.isFull, Bool.false_eq_true, if_false]
    exact ih hframes (.place _ _) h
  case case9 hopen _ _ _ _ _ _ hkey _ _ ih =>
    cases htask
    obtain ⟨skipped, hskipped⟩ := exists_readKeyColon_skip hkey
    rw [readFrom_value, hopen]
    simp only [Mode.isFull, Bool.false_eq_true, if_false, hskipped, Except.bind]
    exact ih (.cons (.object _ _ _ _) hframes) .value h
  case case11 hscalar _ _ ih =>
    cases htask
    obtain ⟨skipped, hskipped⟩ := exists_readScalar_skip hscalar
    simp only [readFrom_value, hskipped, Except.bind]
    exact ih hframes (.place _ _) h
  case case12 =>
    cases htask
    cases hframes
    cases h
    exact ⟨_, readFrom_place_nil⟩
  case case14 hcomma _ _ ih =>
    cases htask
    obtain _ | ⟨⟨_, others⟩, hframes⟩ := hframes
    simp only [readFrom_place_list, hcomma]
    exact ih (.cons (.list _ _) hframes) .value h
  case case15 hclose _ ih =>
    cases htask
    obtain _ | ⟨⟨_, others⟩, hframes⟩ := hframes
    simp only [readFrom_place_list, hclose]
    exact ih hframes (.place _ _) h
  case case20 hcomma _ _ _ _ hkey _ _ ih =>
    cases htask
    obtain _ | ⟨⟨_, others⟩, hframes⟩ := hframes
    obtain ⟨skipped, hskipped⟩ := exists_readKeyColon_skip hkey
    simp only [readFrom_place_object, hcomma, objectComma_eq_ok hkey .skip, hskipped, Except.bind]
    exact ih (.cons (.object _ _ _ _) hframes) .value h
  case case21 hclose _ ih =>
    cases htask
    obtain _ | ⟨⟨_, others⟩, hframes⟩ := hframes
    simp only [readFrom_place_object, hclose]
    exact ih hframes (.place _ _) h
  all_goals cases h

/-- A value that can be read can be skipped, and both end at one place. -/
theorem exists_readValue_skip (h : readValue (.build depth) cs = .ok (value, rest)) :
    ∃ skipped, readValue .skip cs = .ok (skipped, rest) :=
  exists_readFrom_skip .nil .value h

end PayloadModels.Json
