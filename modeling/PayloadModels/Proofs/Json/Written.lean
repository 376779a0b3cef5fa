import PayloadModels.Proofs.Json.Descent

/-!
# Lists and objects as they are written

A list is read item by item and an object member by member, each value as one that stands alone
(`readValue_list_iff`, `readValue_object_iff`). The members that `ReadsObject` speaks of are those
that are written, where a key may be repeated; the value that is read has them put together
(`Members.ofWritten`).
-/

namespace PayloadModels.Json

variable {mode : Mode} {cs rest after start : List Char} {value : Json} {c : Char} {depth : Nat}

/-! ## Lists -/

/-- The items of a list are read, from a value on to the closing bracket. -/
inductive ReadsItems (depth : Nat) : List Char → List Json → List Char → Prop where
  | last {cs after rest : List Char} {item : Json}
      (hitem : readValue (.build depth) cs = .ok (item, after))
      (hclose : skipGap after = ']' :: rest) : ReadsItems depth cs [item] rest
  | more {cs after next rest : List Char} {item : Json} {items : List Json}
      (hitem : readValue (.build depth) cs = .ok (item, after))
      (hcomma : skipGap after = ',' :: next) (hitems : ReadsItems depth next items rest) :
      ReadsItems depth cs (item :: items) rest

/-- Items that are read begin with a value. -/
theorem ReadsItems.exists_readValue {items : List Json} (h : ReadsItems depth cs items rest) :
    ∃ found, readValue (.build depth) cs = .ok found := by
  cases h with
  | last hitem _ => exact ⟨_, hitem⟩
  | more hitem _ _ => exact ⟨_, hitem⟩

/-- No value begins with the end of a list. -/
theorem skipGap_ne_listEnd {found : Json × List Char} (h : readValue mode cs = .ok found) :
    skipGap cs ≠ ']' :: rest := by
  intro hend
  rw [readValue, readFrom_value, hend] at h
  cases h

/-- Items that are read do not begin with the end of the list. -/
theorem ReadsItems.skipGap_ne_listEnd {items : List Json} (h : ReadsItems depth cs items rest) :
    skipGap cs ≠ ']' :: after := by
  obtain ⟨found, hfound⟩ := h.exists_readValue
  exact Json.skipGap_ne_listEnd hfound

/-- Items that are read do not begin with the end of the text. -/
theorem ReadsItems.skipGap_ne_nil {items : List Json} (h : ReadsItems depth cs items rest) :
    skipGap cs ≠ [] := by
  intro hend
  obtain ⟨found, hfound⟩ := h.exists_readValue
  rw [readValue, readFrom_value, hend] at hfound
  cases hfound

/-- A comma may stand before a value. -/
theorem listComma_eq_ok {found : Json × List Char} (h : readValue mode cs = .ok found)
    (other : Mode) : other.listComma (skipGap cs) = .ok () := by
  unfold Mode.listComma
  split
  · next hend => exact absurd hend (skipGap_ne_listEnd h)
  · rfl

/-- Inside a list the reader goes on item by item. -/
theorem readFrom_list_iff {before : List Json} :
    readFrom (.build depth) [.list before] .value cs = .ok (value, rest) ↔
      ∃ items, ReadsItems (depth + 1) cs items rest ∧ value = .arr (before.reverse ++ items) := by
  constructor
  · intro h
    induction hn : cs.length using Nat.strongRecOn generalizing before cs with
    | ind n ih =>
      subst hn
      rw [readFrom_frame] at h
      obtain ⟨⟨item, after⟩, hitem, h⟩ := exists_of_bind_eq_ok h
      rw [readFrom_place_list] at h
      split at h
      · next next hcomma =>
        obtain ⟨_, _, h⟩ := exists_of_bind_eq_ok h
        have hlt := Nat.lt_trans (length_lt_of_skipGap hcomma) (readValue_length hitem)
        obtain ⟨items, hitems, hvalue⟩ := ih _ hlt h rfl
        refine ⟨item :: items, .more hitem hcomma hitems, ?_⟩
        rw [hvalue, List.reverse_cons, List.append_assoc, List.singleton_append]
      · next hclose =>
        rw [readFrom_place_nil] at h
        cases h
        exact ⟨[item], .last hitem hclose, by rw [List.reverse_cons]⟩
      · cases h
      · cases h
  · rintro ⟨items, h, rfl⟩
    induction h generalizing before with
    | last hitem hclose =>
      rw [readFrom_frame, hitem, Except.bind, readFrom_place_list, hclose]
      simp
    | more hitem hcomma hitems ih =>
      obtain ⟨found, hfound⟩ := hitems.exists_readValue
      rw [readFrom_frame, hitem, Except.bind, readFrom_place_list, hcomma]
      simp only [listComma_eq_ok hfound (.build depth), Except.bind, ih, List.reverse_cons,
        List.append_assoc, List.singleton_append]

/-- A list is read where it may be opened, and it is empty or read item by item. -/
theorem readValue_list_iff (hopen : skipGap cs = '[' :: start) :
    readValue (.build depth) cs = .ok (value, rest) ↔ depth < depthLimit ∧
      (skipGap start = ']' :: rest ∧ value = .arr [] ∨
        ∃ items, ReadsItems (depth + 1) start items rest ∧ value = .arr items) := by
  rw [readValue, readFrom_value, hopen]
  by_cases hdepth : depth < depthLimit
  · simp only [List.length_nil, isFull_nil hdepth, Bool.false_eq_true, if_false, hdepth, true_and]
    split
    · next hclose =>
      rw [readFrom_place_nil]
      constructor
      · intro h
        cases h
        exact .inl ⟨hclose, rfl⟩
      · rintro (⟨hrest, rfl⟩ | ⟨items, hitems, -⟩)
        · rw [hclose] at hrest
          cases hrest
          rfl
        · exact absurd hclose hitems.skipGap_ne_listEnd
    · next hclose =>
      constructor
      · intro h
        cases h
      · rintro (⟨hrest, -⟩ | ⟨items, hitems, -⟩)
        · rw [hclose] at hrest
          cases hrest
        · exact absurd hclose hitems.skipGap_ne_nil
    · next hitem _ =>
      refine readFrom_list_iff.trans ?_
      simp only [List.reverse_nil, List.nil_append]
      exact ⟨.inr, fun h => h.resolve_left fun hclose => hitem _ hclose.1⟩
  · simp [Mode.isFull, hdepth, Nat.le_of_not_lt hdepth]

/-! ## Objects -/

/-- The members with others set one after another. -/
def Members.setAll (members written : Members) : Members :=
  written.foldl (fun members member => Members.set member.1 member.2 members) members

/-- The members of an object that is written with these, some of which may repeat a key. -/
def Members.ofWritten (written : Members) : Members := Members.setAll [] written

/-- A key that is new is set at the end. -/
theorem Members.set_of_not_mem {key : String} {members : Members}
    (h : key ∉ members.map (·.1)) (value : Json) :
    members.set key value = members ++ [(key, value)] := by
  induction members with
  | nil => rfl
  | cons member members ih =>
    obtain ⟨hhead, hmembers⟩ := not_or.1 (mt List.mem_cons.2 h)
    rw [Members.set, if_neg (Ne.symm hhead), ih hmembers, List.cons_append]

/-- The members of an object are read as they are written, from a key on to the closing brace. -/
inductive ReadsMembers (depth : Nat) : List Char → Members → List Char → Prop where
  | last {cs start after rest : List Char} {key : String} {value : Json}
      (hkey : readKeyColon (.build depth) cs = .ok (key, start))
      (hvalue : readValue (.build depth) start = .ok (value, after))
      (hclose : skipGap after = '\x7d' :: rest) : ReadsMembers depth cs [(key, value)] rest
  | more {cs start after next rest : List Char} {key : String} {value : Json} {written : Members}
      (hkey : readKeyColon (.build depth) cs = .ok (key, start))
      (hvalue : readValue (.build depth) start = .ok (value, after))
      (hcomma : skipGap after = ',' :: next)
      (hmembers : ReadsMembers depth (skipGap next) written rest) :
      ReadsMembers depth cs ((key, value) :: written) rest

variable {written : Members}

/-- Members that are read begin with a key. -/
theorem ReadsMembers.exists_readKeyColon (h : ReadsMembers depth cs written rest) :
    ∃ found, readKeyColon (.build depth) cs = .ok found := by
  cases h with
  | last hkey _ _ => exact ⟨_, hkey⟩
  | more hkey _ _ _ => exact ⟨_, hkey⟩

/-- A key begins with a quote. -/
theorem exists_eq_quote_cons {found : String × List Char}
    (h : readKeyColon mode cs = .ok found) : ∃ tail, cs = '"' :: tail := by
  obtain ⟨_, hkey, -⟩ := exists_of_bind_eq_ok h
  unfold readKey at hkey
  split at hkey
  · exact ⟨_, rfl⟩
  · cases hkey

/-- A comma may stand before a key. -/
theorem objectComma_eq_ok {found : String × List Char} (h : readKeyColon mode cs = .ok found)
    (other : Mode) : other.objectComma cs = .ok () := by
  obtain ⟨tail, rfl⟩ := exists_eq_quote_cons h
  cases other <;> rfl

/-- Members that are read begin with a quote. -/
theorem ReadsMembers.exists_eq_quote_cons (h : ReadsMembers depth cs written rest) :
    ∃ tail, cs = '"' :: tail := by
  obtain ⟨found, hfound⟩ := h.exists_readKeyColon
  exact Json.exists_eq_quote_cons hfound

/-- Members that are read do not begin with the end of the text. -/
theorem ReadsMembers.ne_nil (h : ReadsMembers depth cs written rest) : cs ≠ [] := by
  obtain ⟨tail, rfl⟩ := h.exists_eq_quote_cons
  exact List.cons_ne_nil _ _

/-- Members that are read do not begin with the end of the object. -/
theorem ReadsMembers.ne_objectEnd (h : ReadsMembers depth cs written rest) :
    cs ≠ '\x7d' :: after := by
  obtain ⟨tail, rfl⟩ := h.exists_eq_quote_cons
  exact nofun

/-- Reads the members of an object into those before, from a key on. -/
def readMembersInto (depth : Nat) (before : Members) (cs : List Char) :
    Except Stop (Json × List Char) :=
  (readKeyColon (.build (depth + 1)) cs).bind fun found =>
    readFrom (.build depth) [.object before found.1] .value found.2

/-- Inside an object the reader goes on member by member. -/
theorem readMembersInto_iff {before : Members} :
    readMembersInto depth before cs = .ok (value, rest) ↔
      ∃ written, ReadsMembers (depth + 1) cs written rest ∧
        value = .obj (before.setAll written) := by
  constructor
  · intro h
    induction hn : cs.length using Nat.strongRecOn generalizing before cs with
    | ind n ih =>
      subst hn
      obtain ⟨⟨key, start⟩, hkey, h⟩ := exists_of_bind_eq_ok h
      rw [readFrom_frame] at h
      obtain ⟨⟨first, after⟩, hfirst, h⟩ := exists_of_bind_eq_ok h
      rw [readFrom_place_object] at h
      split at h
      · next next hcomma =>
        obtain ⟨_, _, h⟩ := exists_of_bind_eq_ok h
        rw [readKeyColon_build, ← readKeyColon_build (depth + 1)] at h
        have hlt : (skipGap next).length < cs.length := by
          have hstart : start.length < cs.length := readKeyColon_length hkey
          have hafter : after.length < start.length := readValue_length hfirst
          have hnext : next.length < after.length := length_lt_of_skipGap hcomma
          have hgap := length_skipGap_le next
          omega
        obtain ⟨written, hmembers, rfl⟩ := ih _ hlt h rfl
        exact ⟨(key, first) :: written, .more hkey hfirst hcomma hmembers, rfl⟩
      · next hclose =>
        rw [readFrom_place_nil] at h
        cases h
        exact ⟨[(key, first)], .last hkey hfirst hclose, rfl⟩
      · cases h
      · cases h
  · rintro ⟨written, h, rfl⟩
    induction h generalizing before with
    | last hkey hvalue hclose =>
      rw [readMembersInto, hkey, Except.bind, readFrom_frame, hvalue, Except.bind,
        readFrom_place_object, hclose]
      exact readFrom_place_nil
    | more hkey hvalue hcomma hmembers ih =>
      obtain ⟨found, hfound⟩ := hmembers.exists_readKeyColon
      rw [readMembersInto, hkey, Except.bind, readFrom_frame, hvalue, Except.bind,
        readFrom_place_object, hcomma]
      simp only [objectComma_eq_ok hfound (.build depth), Except.bind]
      rw [readKeyColon_build, ← readKeyColon_build (depth + 1)]
      exact ih

/-- An object is read as it is written, from its opening brace on to the closing one. -/
inductive ReadsObject (depth : Nat) (cs : List Char) : Members → List Char → Prop where
  | empty {start rest : List Char} (hopen : skipGap cs = '\x7b' :: start)
      (hclose : skipGap start = '\x7d' :: rest) : ReadsObject depth cs [] rest
  | members {start rest : List Char} {written : Members} (hopen : skipGap cs = '\x7b' :: start)
      (hmembers : ReadsMembers (depth + 1) (skipGap start) written rest) :
      ReadsObject depth cs written rest

/-- Behind its opening brace, an object is empty or has members that are read. -/
theorem readsObject_iff (hopen : skipGap cs = '\x7b' :: start) :
    ReadsObject depth cs written rest ↔ skipGap start = '\x7d' :: rest ∧ written = [] ∨
      ReadsMembers (depth + 1) (skipGap start) written rest := by
  constructor
  · rintro (⟨hopen', hclose⟩ | ⟨hopen', hmembers⟩)
    all_goals
      rw [hopen] at hopen'
      cases hopen'
    · exact .inl ⟨hclose, rfl⟩
    · exact .inr hmembers
  · rintro (⟨hclose, rfl⟩ | hmembers)
    · exact .empty hopen hclose
    · exact .members hopen hmembers

/-- An object is read where it may be opened, and its members are those that are written. -/
theorem readValue_object_iff (hopen : skipGap cs = '\x7b' :: start) :
    readValue (.build depth) cs = .ok (value, rest) ↔ depth < depthLimit ∧
      ∃ written, ReadsObject depth cs written rest ∧ value = .obj (Members.ofWritten written) := by
  simp only [readsObject_iff hopen]
  rw [readValue, readFrom_value, hopen]
  by_cases hdepth : depth < depthLimit
  · simp only [List.length_nil, isFull_nil hdepth, Bool.false_eq_true, if_false, hdepth, true_and]
    split
    · next hclose =>
      rw [readFrom_place_nil]
      constructor
      · intro h
        cases h
        exact ⟨[], .inl ⟨hclose, rfl⟩, rfl⟩
      · rintro ⟨written, ⟨hrest, rfl⟩ | hmembers, rfl⟩
        · rw [hclose] at hrest
          cases hrest
          rfl
        · exact absurd hclose hmembers.ne_objectEnd
    · next hclose =>
      constructor
      · intro h
        cases h
      · rintro ⟨written, ⟨hrest, -⟩ | hmembers, -⟩
        · rw [hclose] at hrest
          cases hrest
        · exact absurd hclose hmembers.ne_nil
    · next hmember _ =>
      rw [readKeyColon_build, ← readKeyColon_build (depth + 1)]
      refine readMembersInto_iff.trans (exists_congr fun written => and_congr_left' ?_)
      exact ⟨.inr, fun h => h.resolve_left fun hclose => hmember _ hclose.1⟩
  · simp [Mode.isFull, hdepth, Nat.le_of_not_lt hdepth]

/-! ## What a value begins with -/

/-- A scalar holds no others. -/
theorem readScalar_ne_container (h : readScalar mode cs = .ok (value, rest)) :
    (∀ items, value ≠ .arr items) ∧ ∀ members, value ≠ .obj members := by
  unfold readScalar at h
  split at h
  · cases h
  all_goals
    try split at h
    all_goals first
      | (obtain ⟨_, _, h⟩ := exists_of_bind_eq_ok h
         cases h
         exact ⟨nofun, nofun⟩)
      | cases h

/-- Reading a value that opens no container is reading a scalar. -/
theorem readValue_eq_readScalar (hlist : ∀ start, skipGap cs ≠ '[' :: start)
    (hobject : ∀ start, skipGap cs ≠ '\x7b' :: start) :
    readValue mode cs = readScalar mode (skipGap cs) := by
  rw [readValue, readFrom_value]
  split
  · next hopen => exact absurd hopen (hlist _)
  · next hopen => exact absurd hopen (hobject _)
  · cases readScalar mode (skipGap cs) <;> simp [Except.bind]

/-- Before a character that is no gap there is no gap. -/
theorem skipGap_cons (h : isGap c = false) : skipGap (c :: cs) = c :: cs := by
  rw [skipGap, List.dropWhile_cons, h]
  rfl

/-- A value that begins with a character of a scalar is one. -/
theorem readValue_cons_eq_readScalar (hgap : isGap c = false) (hlist : c ≠ '[')
    (hobject : c ≠ '\x7b') : readValue mode (c :: cs) = readScalar mode (c :: cs) := by
  rw [readValue_eq_readScalar, skipGap_cons hgap]
  all_goals
    intro start hstart
    rw [skipGap_cons hgap] at hstart
  · exact hlist (List.cons.inj hstart).1
  · exact hobject (List.cons.inj hstart).1

/-- An object is read from its opening brace on. -/
theorem exists_eq_brace_cons {members : Members}
    (h : readValue (.build depth) cs = .ok (.obj members, rest)) :
    ∃ start, skipGap cs = '\x7b' :: start := by
  by_contra! hobject
  by_cases hlist : ∃ start, skipGap cs = '[' :: start
  · obtain ⟨start, hopen⟩ := hlist
    obtain ⟨-, ⟨-, hvalue⟩ | ⟨_, -, hvalue⟩⟩ := (readValue_list_iff hopen).1 h
    · cases hvalue
    · cases hvalue
  · rw [readValue_eq_readScalar (by simpa using hlist) hobject] at h
    exact (readScalar_ne_container h).2 members rfl

/-- The reader of objects reads what the reader of values reads as an object. -/
theorem readMembers_eq_ok_iff {members : Members} :
    readMembers (.build depth) cs = .ok (members, rest) ↔
      readValue (.build depth) cs = .ok (.obj members, rest) := by
  unfold readMembers
  split
  · next start hopen =>
    rw [← hopen, readValue_skipGap]
    cases hvalue : readValue (.build depth) cs with
    | error stop => exact ⟨nofun, nofun⟩
    | ok found =>
      obtain ⟨value, after⟩ := found
      cases value with
      | obj members => simp [bind, Except.bind, pure, Except.pure]
      | _ => simp [bind, Except.bind]
  · next hopen =>
    refine ⟨nofun, fun h => ?_⟩
    obtain ⟨start, hstart⟩ := exists_eq_brace_cons h
    exact absurd hstart (hopen start)

/-- What is read where a value stands that is no object is no object. -/
theorem readMembers_ne_ok (h : readValue (.build depth) cs = .ok (value, after))
    (hvalue : ¬ ∃ members, value = .obj members) (found : Members × List Char) :
    readMembers (.build depth) cs ≠ .ok found := by
  intro hfound
  rw [readMembers_eq_ok_iff, h] at hfound
  exact hvalue ⟨_, congrArg Prod.fst (Except.ok.inj hfound)⟩

/-! ## Whole texts -/

/-- A whole text is read when nothing but a gap follows what is read. -/
theorem readWhole?_eq_ok_iff {α : Type} {read : List Char → Except Stop (α × List Char)}
    {text : String} {result : α} : readWhole? read text = .ok result ↔
      ∃ rest, read text.toList = .ok (result, rest) ∧ skipGap rest = [] := by
  unfold readWhole?
  rw [mapError_eq_ok_iff]
  cases read text.toList with
  | error stop => exact ⟨nofun, fun ⟨_, h, _⟩ => nomatch h⟩
  | ok outcome =>
    obtain ⟨found, rest⟩ := outcome
    simp only [bind, Except.bind]
    split
    · next hend =>
      constructor
      · intro h
        cases h
        exact ⟨rest, rfl, hend⟩
      · rintro ⟨_, h, -⟩
        cases h
        rfl
    · next hmore =>
      refine ⟨nofun, ?_⟩
      rintro ⟨_, h, hend⟩
      cases h
      exact absurd hend hmore

/-- The text writes an object with these members, some of which may repeat a key. -/
def WritesObject (text : String) (written : Members) : Prop :=
  ∃ rest, ReadsObject 0 text.toList written rest ∧ skipGap rest = []

/-- An object that is read begins with a brace. -/
theorem ReadsObject.exists_eq_brace_cons (h : ReadsObject depth cs written rest) :
    ∃ start, skipGap cs = '\x7b' :: start := by
  cases h with
  | empty hopen _ => exact ⟨_, hopen⟩
  | members hopen _ => exact ⟨_, hopen⟩

/-- A text is an object where it writes one, and the object has the members that are written. -/
theorem parse_eq_ok_obj_iff {text : String} {members : Members} :
    parse text = .ok (.obj members) ↔
      ∃ written, WritesObject text written ∧ members = Members.ofWritten written := by
  rw [parse, readWhole?_eq_ok_iff]
  constructor
  · rintro ⟨rest, hvalue, hend⟩
    obtain ⟨start, hopen⟩ := exists_eq_brace_cons hvalue
    obtain ⟨-, written, hwritten, hmembers⟩ := (readValue_object_iff hopen).1 hvalue
    exact ⟨written, ⟨rest, hwritten, hend⟩, Json.obj.inj hmembers⟩
  · rintro ⟨written, ⟨rest, hwritten, hend⟩, rfl⟩
    obtain ⟨start, hopen⟩ := hwritten.exists_eq_brace_cons
    exact ⟨rest, (readValue_object_iff hopen).2 ⟨by decide, written, hwritten, rfl⟩, hend⟩

/-- The members of a text are those of the object that it writes. -/
theorem parseMembers_eq_ok_iff {text : String} {members : Members} :
    parseMembers text = .ok members ↔
      ∃ written, WritesObject text written ∧ members = Members.ofWritten written := by
  rw [← parse_eq_ok_obj_iff, parseMembers, parse, readWhole?_eq_ok_iff, readWhole?_eq_ok_iff]
  simp only [readMembers_eq_ok_iff]

end PayloadModels.Json
