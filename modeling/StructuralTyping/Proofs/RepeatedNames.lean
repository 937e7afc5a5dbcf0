import StructuralTyping.Proofs.DiscoveredFields

/-! # Names that are given more than once

The properties of an object and the declared fields of a class may repeat a name.  Both lists are
gone through in order, and in both cases the field of a name stands where the name first occurs and
has the type that it is given last (`Checker.fields_of_repeated_names`).

* `Field.merge` puts entries together.  Its lookups are those of the entries read backwards
  (`Field.lookup_merge`), and its names are in the order in which they first occur.
* `checkEach` checks items in order.  Properties and declared fields are both checked that way, so
  that what is proved of `checkEach` holds of both: `MergedFrom` says of a list of fields that it
  comes of a list of items.
-/
namespace StructuralTyping

/-! ## The last item of a name -/

section LastNamed

variable {α : Type} {nameOf : α → String} {n : String} {x : α} {rest : List α}

/-- One of the items has the name `n` and none of those after it has; `P` holds of the items before
it and of the item itself. -/
def LastNamed (nameOf : α → String) (items : List α) (n : String) (P : List α → α → Prop) : Prop :=
  ∃ before x after, items = before ++ x :: after ∧ nameOf x = n ∧ n ∉ after.map nameOf ∧ P before x

theorem not_lastNamed_nil {P : List α → α → Prop} : ¬LastNamed nameOf [] n P := by
  rintro ⟨before, x, after, split, -⟩
  simp at split

/-- The last item of a name is the first one, if no other follows, or the last one among the others.
-/
theorem lastNamed_cons {P : List α → α → Prop} :
    LastNamed nameOf (x :: rest) n P ↔
      (nameOf x = n ∧ n ∉ rest.map nameOf ∧ P [] x) ∨
        LastNamed nameOf rest n fun before y => P (x :: before) y := by
  constructor
  · rintro ⟨before, y, after, split, name, fresh, holds⟩
    rcases before with _ | ⟨z, before⟩
    · obtain ⟨rfl, rfl⟩ := List.cons.inj split
      exact .inl ⟨name, fresh, holds⟩
    · obtain ⟨rfl, rfl⟩ := List.cons.inj split
      exact .inr ⟨before, y, after, rfl, name, fresh, holds⟩
  · rintro (⟨name, fresh, holds⟩ | ⟨before, y, after, rfl, name, fresh, holds⟩)
    · exact ⟨[], x, rest, rfl, name, fresh, holds⟩
    · exact ⟨x :: before, y, after, rfl, name, fresh, holds⟩

/-- What is said of the last item may be replaced by what amounts to the same. -/
theorem LastNamed.congr {items : List α} {P Q : List α → α → Prop}
    (same : ∀ before y, nameOf y = n → (P before y ↔ Q before y)) :
    LastNamed nameOf items n P ↔ LastNamed nameOf items n Q := by
  unfold LastNamed
  refine exists_congr fun before => exists_congr fun y => exists_congr fun after => ?_
  constructor
  · rintro ⟨split, name, fresh, holds⟩
    exact ⟨split, name, fresh, (same before y name).mp holds⟩
  · rintro ⟨split, name, fresh, holds⟩
    exact ⟨split, name, fresh, (same before y name).mpr holds⟩

end LastNamed

/-! ## Merged entries -/

namespace Field

/-- A field that was put is found, and the others are as before. -/
theorem lookup_put (n name : String) (t : Ty) (fs : List Field) :
    lookup n (put name t fs) = if name = n then some t else lookup n fs := by
  induction fs with
  | nil => rw [put, lookup_cons]
  | cons f fs ih =>
    rw [put]
    by_cases here : f.name = name
    · rw [if_pos here, lookup_cons, lookup_cons, here]
      split <;> rfl
    · rw [if_neg here, lookup_cons, lookup_cons, ih]
      by_cases same : f.name = n
      · rw [if_pos same, if_pos same, if_neg fun h => here (same.trans h.symm)]
      · rw [if_neg same, if_neg same]

/-- Of several entries of one name the last one counts. -/
theorem lookup_merge (n : String) (entries : List Field) :
    lookup n (merge entries) = lookup n entries.reverse := by
  induction entries using List.reverseRecOn with
  | nil => rfl
  | append_singleton entries e ih =>
    rw [merge_concat, lookup_put, ih, List.reverse_append, List.reverse_singleton,
      List.singleton_append, lookup_cons]

/-- A field is not found exactly if it is not there. -/
theorem lookup_eq_none_iff {n : String} {fs : List Field} :
    lookup n fs = none ↔ n ∉ fs.map Field.name := by
  induction fs with
  | nil => simp [lookup]
  | cons f fs ih =>
    rw [lookup_cons, List.map_cons, List.mem_cons, not_or, ← ih]
    by_cases here : f.name = n
    · simp [here]
    · simp [here, Ne.symm here]

/-- A lookup among merged entries finds the last one of the name. -/
theorem lookup_merge_eq_some_iff {n : String} {u : Ty} {entries : List Field} :
    lookup n (merge entries) = some u ↔ LastNamed Field.name entries n fun _ e => e.ty = u := by
  rw [lookup_merge]
  induction entries with
  | nil => exact iff_of_false (by simp [lookup]) not_lastNamed_nil
  | cons e entries ih =>
    -- the first entry counts if the name is not found behind it
    have missing : lookup n entries.reverse = none ↔ n ∉ entries.map Field.name := by
      rw [lookup_eq_none_iff]
      simp
    rw [List.reverse_cons, lookup_append, Option.or_eq_some_iff, ih, missing, lastNamed_cons,
      lookup_cons]
    have only : ((if e.name = n then some e.ty else lookup n []) = some u) ↔
        e.name = n ∧ e.ty = u := by
      by_cases here : e.name = n <;> simp [here, lookup]
    rw [only]
    constructor
    · rintro (later | ⟨fresh, name, ty⟩)
      · exact .inr later
      · exact .inl ⟨name, fresh, ty⟩
    · rintro (⟨name, fresh, ty⟩ | later)
      · exact .inr ⟨fresh, name, ty⟩
      · exact .inl later

end Field

/-- Without repetitions names stand in the order in which they first occur. -/
theorem pairwise_idxOf_eraseDups (names : List String) :
    names.eraseDups.Pairwise fun a b => names.idxOf a < names.idxOf b := by
  induction names using List.reverseRecOn with
  | nil => exact .nil
  | append_singleton names name ih =>
    have earlier {a : String} (ha : a ∈ names.eraseDups) :
        (names ++ [name]).idxOf a = names.idxOf a :=
      List.idxOf_append_of_mem (List.mem_eraseDups.mp ha)
    have kept : names.eraseDups.Pairwise fun a b =>
        (names ++ [name]).idxOf a < (names ++ [name]).idxOf b :=
      ih.imp_of_mem fun ha hb less => by rwa [earlier ha, earlier hb]
    rw [List.eraseDups_append]
    by_cases there : name ∈ names
    · simpa [List.removeAll, there] using kept
    · have new : ([name].removeAll names).eraseDups = [name] := by
        simp [List.removeAll, there, List.eraseDups_cons]
      rw [new, List.pairwise_append]
      refine ⟨kept, List.pairwise_singleton _ _, fun a ha b hb => ?_⟩
      obtain rfl := List.mem_singleton.mp hb
      rw [earlier ha, List.idxOf_append_of_notMem there]
      exact Nat.lt_of_lt_of_le (List.idxOf_lt_length_of_mem (List.mem_eraseDups.mp ha))
        (Nat.le_add_right _ _)

/-- The fields come of the items: each name has one field, the fields stand in the order in which
the names first occur among the items, and a field has the type that is given for the last item of
its name.  `given before x u` says that `u` is given for `x`, which comes after the items
`before`. -/
structure MergedFrom {α : Type} (nameOf : α → String) (given : List α → α → Ty → Prop)
    (items : List α) (fields : List Field) : Prop where
  distinct : (fields.map Field.name).Nodup
  inOrder : (fields.map Field.name).Pairwise fun a b =>
    (items.map nameOf).idxOf a < (items.map nameOf).idxOf b
  last : ∀ f ∈ fields, LastNamed nameOf items f.name fun before x => given before x f.ty
  found : ∀ n u, (Ty.object fields).field? n = some u ↔
    LastNamed nameOf items n fun before x => given before x u
  missing : ∀ n, (Ty.object fields).field? n = none ↔ n ∉ items.map nameOf

namespace Checker

/-! ## Items that are checked one after the other -/

/-- Checks the value of a property; the entry has its widened type. -/
def checkProperty (receiver : Receiver) (p : Property) (st : State) : Checked Property Field :=
  ((checkExpr receiver p.value st).conclude fun t => .ok ⟨p.key.value.name, t.widen⟩).rebuild
    fun value => ⟨p.key, value⟩

/-- Properties are checked one by one, without a look at each other. -/
theorem checkProperties_eq_checkEach (receiver : Receiver) (ps : List Property) (st : State) :
    checkProperties receiver ps st = checkEach (checkProperty receiver) ps st := by
  induction ps generalizing st with
  | nil => rw [checkProperties, checkEach]
  | cons p ps ih =>
    obtain ⟨key, value⟩ := p
    rw [checkProperties, checkEach, checkProperty, Edit.andThen, Edit.andThen]
    cases hv : (checkExpr receiver value st).result with
    | error f => simp [Edit.conclude, Edit.rebuild, hv, Except.bind]
    | ok t => simp [Edit.conclude, Edit.rebuild, hv, Except.bind, ih]

section Entries

variable {α : Type} {one : α → State → Checked α Field} {nameOf : α → String} {items : List α}
  {entries : List Field} {st : State}

/-- The last entry of a name is that of the last item of the name, checked in the state in which the
items before it leave the check. -/
theorem lastNamed_checkEach (named : ∀ x st f, (one x st).result = .ok f → f.name = nameOf x)
    (ok : (checkEach one items st).result = .ok entries) (n : String) (u : Ty) :
    LastNamed Field.name entries n (fun _ e => e.ty = u) ↔
      LastNamed nameOf items n fun before x =>
        (one x (checkEach one before st).state).result = .ok ⟨n, u⟩ := by
  induction items generalizing st entries with
  | nil =>
    rw [checkEach] at ok
    cases ok
    exact iff_of_false not_lastNamed_nil not_lastNamed_nil
  | cons x rest ih =>
    obtain ⟨f, later, hf, hlater, rfl⟩ := exists_of_checkEach_cons_ok ok
    have start : (checkEach one [] st).state = st := by
      rw [checkEach]
      rfl
    have name := named x st f hf
    -- the entry of `x` is the last of its name exactly if `x` is
    have here : f.name = n ∧ n ∉ later.map Field.name ∧ f.ty = u ↔
        nameOf x = n ∧ n ∉ rest.map nameOf ∧
          (one x (checkEach one [] st).state).result = .ok ⟨n, u⟩ := by
      rw [names_checkEach named hlater, name, start, hf, Except.ok.injEq]
      obtain ⟨m, v⟩ := f
      obtain rfl : m = nameOf x := name
      simp only [Field.mk.injEq]
      tauto
    rw [lastNamed_cons, lastNamed_cons, here, ih hlater]
    simp only [state_checkEach_cons hf]

/-- What comes of items that are checked in order and merged. -/
theorem mergedFrom_checkEach (named : ∀ x st f, (one x st).result = .ok f → f.name = nameOf x)
    (ok : (checkEach one items st).result = .ok entries) {given : List α → α → Ty → Prop}
    (gives : ∀ before x u,
      (one x (checkEach one before st).state).result = .ok ⟨nameOf x, u⟩ ↔ given before x u) :
    MergedFrom nameOf given items (Field.merge entries) := by
  have names := names_checkEach named ok
  have found (n : String) (u : Ty) : Field.lookup n (Field.merge entries) = some u ↔
      LastNamed nameOf items n fun before x => given before x u := by
    rw [Field.lookup_merge_eq_some_iff, lastNamed_checkEach named ok]
    refine LastNamed.congr fun before x name => ?_
    rw [← name]
    exact gives before x u
  refine ⟨Field.nodup_merge entries, ?_, fun f hf => ?_, found, fun n => ?_⟩
  · rw [Field.names_merge, names]
    exact pairwise_idxOf_eraseDups _
  · exact (found f.name f.ty).mp (Field.lookup_of_mem (Field.nodup_merge entries) hf)
  · rw [Ty.field?, Field.lookup_merge, Field.lookup_eq_none_iff, ← names]
    simp

end Entries

/-! ## Objects and classes -/

/-- The type of a property after the properties `before`: the widened type of its value. -/
def PropertyGives (receiver : Receiver) (st : State) (before : List Property) (p : Property)
    (u : Ty) : Prop :=
  ∃ t, (checkExpr receiver p.value (checkProperties receiver before st).state).result = .ok t ∧
    u = t.widen

/-- The type of a declared field that is checked in the state `st`: what its annotation stands for,
else the widened type of its initial value, else unknown.  An initial value is checked before the
annotation is looked at, and must fit it. -/
def FieldTyped (st : State) (d : FieldDecl) (u : Ty) : Prop :=
  match d.declaredAs, d.init with
  | some a, some e => ∃ t, (checkExpr none e st).result = .ok t ∧
      (checkExpr none e st).state.scopes.resolve a = .ok u ∧ t.assignable u = true
  | some a, none => st.scopes.resolve a = .ok u
  | none, some e => ∃ t, (checkExpr none e st).result = .ok t ∧ u = t.widen
  | none, none => u = .unknown

/-- The type of a declared field after the fields `before`. -/
def FieldGives (st : State) (before : List FieldDecl) (d : FieldDecl) (u : Ty) : Prop :=
  FieldTyped (checkFields before st).state d u

theorem name_checkProperty {receiver : Receiver} (p : Property) (st : State) (f : Field)
    (ok : (checkProperty receiver p st).result = .ok f) : f.name = p.key.value.name := by
  obtain ⟨t, -, same⟩ := exists_of_bind_eq_ok ok
  cases same
  rfl

/-- A property has the widened type of its value. -/
theorem checkProperty_eq_ok_iff {receiver : Receiver} {p : Property} {st : State} {u : Ty} :
    (checkProperty receiver p st).result = .ok ⟨p.key.value.name, u⟩ ↔
      ∃ t, (checkExpr receiver p.value st).result = .ok t ∧ u = t.widen := by
  constructor
  · intro ok
    obtain ⟨t, ht, same⟩ := exists_of_bind_eq_ok ok
    cases same
    exact ⟨t, ht, rfl⟩
  · rintro ⟨t, ht, rfl⟩
    show (checkExpr receiver p.value st).result.bind _ = _
    rw [ht]
    rfl

/-- The type of an object merges the entries of its properties. -/
theorem exists_of_object_ok {receiver : Receiver} {span : Span} {properties : List Property}
    {slot : Option TypeId} {st : State} {t : Ty}
    (ok : (checkExpr receiver ⟨span, .object properties, slot⟩ st).result = .ok t) :
    ∃ entries, (checkProperties receiver properties st).result = .ok entries ∧
      t = .object (Field.merge entries) := by
  rw [checkExpr, recorded_result, checkForm] at ok
  obtain ⟨entries, hentries, same⟩ := exists_of_bind_eq_ok ok
  exact ⟨entries, hentries, (Except.ok.inj same).symm⟩

/-- A field is accepted exactly with the type that `FieldTyped` says. -/
theorem checkField_eq_ok_iff_typed {d : FieldDecl} {st : State} {u : Ty} :
    (checkField d st).result = .ok ⟨d.name.value.name, u⟩ ↔ FieldTyped st d u := by
  rw [checkField_eq_ok_iff]
  obtain ⟨name, declaredAs, init⟩ := d
  cases init with
  | none =>
    rw [checkOptional]
    cases declaredAs with
    | none => simp [FieldTyped, Rule.field, Edit.succeed, eq_comm]
    | some a => simp [FieldTyped, Rule.field, Edit.succeed]
  | some e =>
    have initial {initTy : Option Ty} : (checkOptional none (some e) st).result = .ok initTy ↔
        ∃ t, (checkExpr none e st).result = .ok t ∧ initTy = some t := by
      rw [checkOptional, Edit.rebuild_result, Edit.conclude]
      cases (checkExpr none e st).result <;> simp [Except.bind, eq_comm]
    have reached : (checkOptional none (some e) st).state = (checkExpr none e st).state := by
      rw [checkOptional]
      rfl
    simp only [initial, reached]
    cases declaredAs with
    | none => simp [FieldTyped, Rule.field, Rule.binding, eq_comm]
    | some a => simp [FieldTyped, Rule.field, Rule.binding_eq_ok_iff]

/-- The type of a class that is accepted has the declared fields, merged, in front. -/
theorem exists_declared_of_accepted {c : Class} {st : State} {t : Ty} (real : st.surveying = false)
    (ok : (checkClass c st).result = .ok t) :
    ∃ declared fields methods,
      (checkFields c.fields (st.enterClass c.methods).push).result = .ok declared ∧
      t = .object (fields ++ methods) ∧ Grown (Field.merge declared) fields := by
  obtain ⟨declared, fields⟩ :
      ∃ declared, (checkFields c.fields (st.enterClass c.methods).push).result = .ok declared := by
    obtain ⟨name, fs, ms⟩ := c
    rw [checkClass_of_real name fs ms real] at ok
    obtain ⟨u, members, -, -⟩ := Edit.exists_of_andThen_ok ok
    obtain ⟨declared, fields, -, -⟩ := Edit.exists_of_andThen_ok (show (checkMembers st.nextSelf
      name fs ms (st.enterClass ms).push).result = .ok u from members)
    exact ⟨declared, fields⟩
  have keeps := keepsFields fields
  obtain ⟨signatures, methods, rfl⟩ := keeps.accepted t real ok
  have surveyed := (keeps.first c.methods [] (List.append_nil _).symm).1.trans
    (keeps.first c.methods [] (List.append_nil _).symm).2
  exact ⟨declared, _, methods, fields, rfl,
    surveyed.trans (keeps.second signatures c.methods [] (List.append_nil _).symm).1⟩

/-- **Repeated names are merged in one way.**  Whenever an object or the declared fields of a class
are accepted, each name has one field; the fields are in the order in which the names first occur,
and each has the type that is given with the last occurrence of its name, so that this is what a
lookup finds, and nothing for other names.  The type of a class that is accepted starts with these
fields. -/
theorem fields_of_repeated_names :
    (∀ (receiver : Receiver) (span : Span) (properties : List Property) (slot : Option TypeId)
        (st : State) (t : Ty),
      (checkExpr receiver ⟨span, .object properties, slot⟩ st).result = .ok t →
      ∃ fields, t = .object fields ∧
        MergedFrom (fun p => p.key.value.name) (PropertyGives receiver st) properties fields) ∧
    (∀ (decls : List FieldDecl) (st : State) (declared : List Field),
      (checkFields decls st).result = .ok declared →
      MergedFrom (fun d => d.name.value.name) (FieldGives st) decls (Field.merge declared)) ∧
    ∀ (c : Class) (st : State) (t : Ty), st.surveying = false → (checkClass c st).result = .ok t →
      ∃ declared fields methods,
        (checkFields c.fields (st.enterClass c.methods).push).result = .ok declared ∧
        t = .object (fields ++ methods) ∧ Grown (Field.merge declared) fields := by
  refine ⟨?_, ?_, fun c st t => exists_declared_of_accepted⟩
  · intro receiver span properties slot st t ok
    obtain ⟨entries, hentries, rfl⟩ := exists_of_object_ok ok
    refine ⟨_, rfl, ?_⟩
    rw [checkProperties_eq_checkEach] at hentries
    refine mergedFrom_checkEach name_checkProperty hentries fun before p u => ?_
    rw [checkProperty_eq_ok_iff, PropertyGives, checkProperties_eq_checkEach]
  · intro decls st declared ok
    rw [checkFields_eq_checkEach] at ok
    refine mergedFrom_checkEach name_checkField ok fun before d u => ?_
    rw [checkField_eq_ok_iff_typed, FieldGives, checkFields_eq_checkEach]

/-- An object with a number, a string, and a boolean under the name of the number. -/
def overwritten : List Property :=
  [("a", .number ⟨0x3ff0000000000000⟩), ("b", .string "x"), ("a", .boolean true)].map fun p =>
    ⟨⟨.zero, ⟨p.1, none⟩, none⟩, ⟨.zero, .literal (.value p.2), none⟩⟩

/-- Two fields that are declared twice: one with an annotation and then without anything, the other
with a value and then with an annotation too. -/
def redeclared : List FieldDecl :=
  [⟨⟨.zero, ⟨"id", none⟩, none⟩, some ⟨.zero, .keyword .string, none⟩, none⟩,
    ⟨⟨.zero, ⟨"done", none⟩, none⟩, none, some ⟨.zero, .literal (.value .null), none⟩⟩,
    ⟨⟨.zero, ⟨"id", none⟩, none⟩, none, none⟩,
    ⟨⟨.zero, ⟨"done", none⟩, none⟩, some ⟨.zero, .keyword .boolean, none⟩,
      some ⟨.zero, .literal (.value (.boolean true)), none⟩⟩]

/-- An object and a class, each with a name that is given twice. -/
theorem fields_of_repeated_names_redeclared :
    (∃ fields, Ty.object [⟨"a", .boolean⟩, ⟨"b", .string⟩] = .object fields ∧
      MergedFrom (fun p => p.key.value.name) (PropertyGives none {}) overwritten fields) ∧
    MergedFrom (fun d => d.name.value.name) (FieldGives {}) redeclared
      [⟨"id", .unknown⟩, ⟨"done", .boolean⟩] ∧
    ∃ declared fields methods,
      (checkFields redeclared (State.enterClass [] {}).push).result = .ok declared ∧
      Ty.object [⟨"id", .unknown⟩, ⟨"done", .boolean⟩] = .object (fields ++ methods) ∧
      Grown (Field.merge declared) fields := by
  obtain ⟨objects, fields, classes⟩ := fields_of_repeated_names
  refine ⟨objects none .zero overwritten none {} _ (eq_ok_of_toOption (by decide +kernel)),
    fields redeclared {} [⟨"id", .string⟩, ⟨"done", .null⟩, ⟨"id", .unknown⟩, ⟨"done", .boolean⟩]
      (eq_ok_of_toOption (by decide +kernel)),
    classes ⟨none, redeclared, []⟩ {} _ rfl (eq_ok_of_toOption (by decide +kernel))⟩

end Checker
end StructuralTyping
