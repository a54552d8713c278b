/-
Records by the names of their fields.

What a record looks like as a value is said here apart from any reader. A `Field` has a name, takes
values of its type, and may have a value of its own when it is absent; the list of its fields is the
shape of a record. `Accepted` says which members an object may have, `Given` which record they
stand for, and `IsRecord` extends both to lists of values. A reader that goes by a shape reads just
these values (`Follows.readsRecord`), so neither the order of the members matters to it nor what
else an object holds.
-/
import ChainWatch.Json.Fields
import ChainWatch.Proofs.TextMap

set_option autoImplicit false

namespace ChainWatch.Json

/-! ## 1. Members by name -/

/-- No name stands for two members. -/
def Once (names : List String) (ms : List (String × Json)) : Prop :=
  ∀ n ∈ names, (ms.map Prod.fst).count n ≤ 1

instance (names : List String) (ms : List (String × Json)) : Decidable (Once names ms) :=
  inferInstanceAs (Decidable (∀ n ∈ names, _))

theorem lookup_map_some (ms : List (String × Json)) (n : String) :
    (ms.map fun m => (some m.1, m.2)).lookup (some n) = ms.lookup n := by
  induction ms with
  | nil => rfl
  | cons m ms ih =>
      rw [List.map_cons, List.lookup_cons, List.lookup_cons, ih]
      rfl

theorem length_filter_map_some (ms : List (String × Json)) (n : String) :
    ((ms.map fun m => (some m.1, m.2)).filter fun m : Option String × Json => m.1 == some n).length
      = (ms.map Prod.fst).count n := by
  rw [List.count_eq_length_filter, List.filter_map, List.filter_map, List.length_map,
    List.length_map]
  rfl

/-- The members of an object are laid out by name, unless a name stands for two of them. -/
theorem fields?_object (names : List String) (ms : List (String × Json)) :
    (object ms).fields? names
      = if Once names ms then some (names.map fun n => ms.lookup n) else none := by
  have htexts : (ms.map fun m => (some m.1, m.2)).all
      (fun m : Option String × Json => m.1.isSome) = true := by simp
  have honce : (names.all fun n => (((ms.map fun m => (some m.1, m.2)).filter
      fun m : Option String × Json => m.1 == some n).length ≤ 1 : Bool)) = true
        ↔ Once names ms := by
    simp only [length_filter_map_some, List.all_eq_true, decide_eq_true_eq]
    rfl
  rw [object, fields?, htexts, Bool.true_and]
  simp only [honce, lookup_map_some]

theorem lookup_eq_none {ms : List (String × Json)} {n : String} :
    ms.lookup n = none ↔ ∀ j, (n, j) ∉ ms := by
  rw [List.lookup_eq_none_iff]
  constructor
  · intro h j hj
    simpa using h (n, j) hj
  · rintro h ⟨k, j⟩ hm
    rw [bne_iff_ne]
    rintro rfl
    exact h j hm

/-! ## 2. Values by position -/

theorem map_fst_zip_sublist (names : List String) (values : List Json) :
    ((names.zip values).map Prod.fst).Sublist names := by
  induction names generalizing values with
  | nil => exact .slnil
  | cons n names ih =>
      cases values with
      | nil => exact List.nil_sublist _
      | cons v values => exact (ih values).cons_cons n

theorem once_zip {names : List String} (hnodup : names.Nodup) (values : List Json) :
    Once names (names.zip values) := fun n _ =>
  List.nodup_iff_count.mp (hnodup.sublist (map_fst_zip_sublist names values)) n

/-- Values in order are those of the first names. -/
theorem map_lookup_zip {names : List String} (hnodup : names.Nodup) {values : List Json}
    (hlength : values.length ≤ names.length) :
    names.map (fun n => (names.zip values).lookup n)
      = values.map some ++ List.replicate (names.length - values.length) none := by
  induction names generalizing values with
  | nil =>
      rw [List.length_nil, Nat.le_zero, List.length_eq_zero_iff] at hlength
      rw [hlength]
      rfl
  | cons n names ih =>
      cases values with
      | nil =>
          simp only [List.zip_nil_right, List.lookup_nil, List.map_const']
          rfl
      | cons v values =>
          rw [List.nodup_cons] at hnodup
          rw [List.length_cons, List.length_cons, Nat.add_le_add_iff_right] at hlength
          -- the first value belongs to the first name, which is none of the others
          have hothers : names.map (fun n' => ((n, v) :: names.zip values).lookup n')
              = names.map fun n' => (names.zip values).lookup n' := by
            apply List.map_congr_left
            intro n' hn'
            rw [List.lookup_cons, beq_false_of_ne]
            rintro rfl
            exact hnodup.1 hn'
          rw [List.zip_cons_cons, List.map_cons, hothers, ih hnodup.2 hlength, List.lookup_cons,
            beq_self_eq_true, List.map_cons, List.length_cons, List.length_cons,
            Nat.add_sub_add_right]
          rfl

/-- A list of values is laid out as the object that names them. -/
theorem fields?_list {names : List String} (hnodup : names.Nodup) {values : List Json}
    (hlength : values.length ≤ names.length) :
    (list values).fields? names = (object (names.zip values)).fields? names := by
  rw [fields?_object, if_pos (once_zip hnodup values), map_lookup_zip hnodup hlength, fields?,
    if_pos hlength]

/-- Values for all names are laid out as they stand. -/
theorem fields?_zip {names : List String} (hnodup : names.Nodup) (values : List Json)
    (hlength : values.length = names.length) :
    (object (names.zip values)).fields? names = some (values.map some) := by
  have hle := Nat.le_of_eq hlength
  rw [← fields?_list hnodup hle, fields?, if_pos hle, hlength, Nat.sub_self, List.replicate_zero,
    List.append_nil]

theorem fields?_long {names : List String} {values : List Json}
    (hlength : names.length < values.length) : (list values).fields? names = none := by
  rw [fields?, if_neg (Nat.not_le.mpr hlength)]

/-- Only objects whose names are texts, and lists, are laid out. -/
theorem eq_of_fields? {names : List String} {j : Json} {cells : List (Option Json)}
    (h : j.fields? names = some cells) : (∃ ms, j = object ms) ∨ ∃ values, j = list values := by
  unfold fields? at h
  split at h
  · rename_i members
    split at h
    · rename_i htexts
      rw [Bool.and_eq_true, List.all_eq_true] at htexts
      refine Or.inl ⟨members.map fun m => (m.1.getD "", m.2), ?_⟩
      rw [object, List.map_map, Json.record.injEq]
      refine ((List.map_congr_left ?_).trans (List.map_id members)).symm
      rintro ⟨k, v⟩ hm
      obtain ⟨key, rfl⟩ := Option.isSome_iff_exists.mp (htexts.1 _ hm)
      rfl
    · cases h
  · exact Or.inr ⟨_, rfl⟩
  · cases h

theorem choice?_eq_some {j : Json} {name : String} {payload : Json} :
    j.choice? = some (name, payload) ↔ j = object [(name, payload)] := by
  constructor
  · intro h
    unfold choice? at h
    split at h
    · cases h
      rfl
    · cases h
  · rintro rfl
    rfl

/-! ## 3. Records -/

/-- A field of a record: which values it takes and as what, and what it is when it is absent. -/
structure Field (α : Type) where
  name : String
  /-- What the field holds. -/
  β : Type
  get : α → β
  /-- The values of its type, and what they stand for. -/
  Is : Json → β → Prop
  /-- What it holds when it is absent, if it may be. -/
  default : Option β

section Records

variable {α : Type} {shape : List (Field α)} {ms : List (String × Json)} {m : α}

/-- The names of the fields, in the order in which they are declared. -/
def fieldNames (shape : List (Field α)) : List String := shape.map Field.name

/-- The members that an object of a record may have: no field twice, each with a value of its type,
and every field that has no value of its own. Members with other names do not matter. -/
structure Accepted (shape : List (Field α)) (ms : List (String × Json)) : Prop where
  once : Once (fieldNames shape) ms
  typed : ∀ f ∈ shape, ∀ j, (f.name, j) ∈ ms → ∃ b, f.Is j b
  present : ∀ f ∈ shape, f.default = none → ∃ j, (f.name, j) ∈ ms

/-- A record holds what the members give, and in each absent field what that is by itself. -/
structure Given (shape : List (Field α)) (ms : List (String × Json)) (m : α) : Prop where
  value : ∀ f ∈ shape, ∀ j, (f.name, j) ∈ ms → f.Is j (f.get m)
  absent : ∀ f ∈ shape, (∀ j, (f.name, j) ∉ ms) → f.default = some (f.get m)

/-- The values that stand for a record: objects, and lists of the values of the first fields. -/
inductive IsRecord (shape : List (Field α)) : Json → α → Prop where
  | object {ms : List (String × Json)} {m : α} (haccepted : Accepted shape ms)
      (hgiven : Given shape ms m) : IsRecord shape (.object ms) m
  | list {values : List Json} {m : α} (hlength : values.length ≤ shape.length)
      (haccepted : Accepted shape ((fieldNames shape).zip values))
      (hgiven : Given shape ((fieldNames shape).zip values) m) : IsRecord shape (.list values) m

/-! ## 4. Readers -/

/-- What a field holds if this is its value, or if it has none. -/
def Field.Stands (f : Field α) : Option Json → f.β → Prop
  | some j, b => f.Is j b
  | none, b => f.default = some b

/-- A reader of one field. -/
def Field.ReadBy (f : Field α) (read : Option Json → Option f.β) : Prop :=
  ∀ cell b, read cell = some b ↔ f.Stands cell b

/-- What is read of some fields, if `Fits` says what the fields before have told of the record. A
reader takes the fields one by one and puts the record together at the end, so what it has read
so far narrows down the record until one is left. -/
structure ReadsFields (fields : List (Field α)) (Fits : α → Prop)
    (read : (String → Option Json) → Option α) : Prop where
  reads : ∀ cell m,
    read cell = some m ↔ Fits m ∧ ∀ f ∈ fields, f.Stands (cell f.name) (f.get m)
  /-- The fields do not depend on each other. -/
  total : ∀ cell, (∀ f ∈ fields, ∃ b, f.Stands (cell f.name) b) → ∃ m, read cell = some m

/-- A reader of values that are laid out by a shape. -/
structure Follows (shape : List (Field α)) (ofFields? : List (Option Json) → Option α) : Prop where
  nodup : (fieldNames shape).Nodup
  fields : ReadsFields shape (fun _ => True) fun cell => ofFields? ((fieldNames shape).map cell)

theorem readBy_required {β : Type} {read : Json → Option β} {Is : Json → β → Prop}
    (hread : ∀ j b, read j = some b ↔ Is j b) (name : String) (get : α → β) :
    (⟨name, β, get, Is, none⟩ : Field α).ReadBy (required read)
  | some j, b => hread j b
  | none, _ => Iff.rfl

theorem readBy_withDefault {β : Type} {read : Json → Option β} {Is : Json → β → Prop}
    (hread : ∀ j b, read j = some b ↔ Is j b) (name : String) (get : α → β) (default : β) :
    (⟨name, β, get, Is, some default⟩ : Field α).ReadBy (withDefault default read)
  | some j, b => hread j b
  | none, _ => Iff.rfl

/-- Once all fields are read there is one record that fits. -/
theorem readsFields_nil {Fits : α → Prop} (h : ∀ m', Fits m' ↔ m' = m) :
    ReadsFields [] Fits fun _ => some m where
  reads cell m' := by
    rw [Option.some.injEq, h, eq_comm]
    exact ⟨fun heq => ⟨heq, nofun⟩, fun heq => heq.1⟩
  total _ _ := ⟨m, rfl⟩

/-- One field more is read before the others, and the record has to fit it too. -/
theorem readsFields_cons {f : Field α} {fields : List (Field α)} {Fits : α → Prop}
    {read : Option Json → Option f.β} {readRest : f.β → (String → Option Json) → Option α}
    (hread : f.ReadBy read)
    (hrest : ∀ b, ReadsFields fields (fun m => Fits m ∧ f.get m = b) (readRest b)) :
    ReadsFields (f :: fields) Fits fun cell =>
      (read (cell f.name)).bind fun b => readRest b cell where
  reads cell m := by
    rw [Option.bind_eq_some_iff, List.forall_mem_cons]
    constructor
    · rintro ⟨b, hb, hm⟩
      obtain ⟨⟨hfits, rfl⟩, hothers⟩ := ((hrest b).reads cell m).mp hm
      exact ⟨hfits, (hread _ _).mp hb, hothers⟩
    · rintro ⟨hfits, hstands, hothers⟩
      exact ⟨_, (hread _ _).mpr hstands, ((hrest _).reads cell m).mpr ⟨⟨hfits, rfl⟩, hothers⟩⟩
  total cell h := by
    rw [List.forall_mem_cons] at h
    obtain ⟨⟨b, hb⟩, hothers⟩ := h
    obtain ⟨m, hm⟩ := (hrest b).total cell hothers
    exact ⟨m, Option.bind_eq_some_iff.mpr ⟨b, (hread _ _).mpr hb, hm⟩⟩

/-- What a reader of records does that goes by their fields. -/
structure ReadsRecord (shape : List (Field α)) (read : Json → Option α) : Prop where
  /-- It reads the values that stand for a record, and nothing else. -/
  exact : ∀ j m, read j = some m ↔ IsRecord shape j m
  accepts : ∀ ms, (∃ m, read (.object ms) = some m) ↔ Accepted shape ms
  result : ∀ ms m, read (.object ms) = some m ↔ Accepted shape ms ∧ Given shape ms m
  /-- Neither the order of the members matters, nor which others there are. -/
  same : ∀ ms ms' : List (String × Json),
    (ms.filter fun m => m.1 ∈ fieldNames shape).Perm
      (ms'.filter fun m => m.1 ∈ fieldNames shape) →
    read (.object ms) = read (.object ms')
  /-- The values of the first fields in order are as good as the object that names them. -/
  list : ∀ values : List Json, values.length ≤ shape.length →
    read (.list values) = read (.object ((fieldNames shape).zip values))
  long : ∀ values : List Json, shape.length < values.length → read (.list values) = none

theorem stands_lookup (f : Field α) (honce : (ms.map Prod.fst).count f.name ≤ 1) (b : f.β) :
    f.Stands (ms.lookup f.name) b
      ↔ (∀ j, (f.name, j) ∈ ms → f.Is j b) ∧ ((∀ j, (f.name, j) ∉ ms) → f.default = some b) := by
  cases hlookup : ms.lookup f.name with
  | some j =>
      have hj := (lookup_eq_some honce).mp hlookup
      constructor
      · intro hstands
        refine ⟨?_, fun hnone => absurd hj (hnone j)⟩
        intro j' hj'
        rw [← lookup_eq_some honce, hlookup] at hj'
        cases hj'
        exact hstands
      · exact fun h => h.1 j hj
  | none =>
      have hnone := lookup_eq_none.mp hlookup
      constructor
      · exact fun hstands => ⟨fun j hj => absurd hj (hnone j), fun _ => hstands⟩
      · exact fun h => h.2 hnone

variable {ofFields? : List (Option Json) → Option α}

theorem bind_fields?_object (ofFields? : List (Option Json) → Option α) (names : List String)
    (ms : List (String × Json)) :
    ((object ms).fields? names).bind ofFields?
      = if Once names ms then ofFields? (names.map fun n => ms.lookup n) else none := by
  rw [fields?_object]
  split <;> rfl

theorem Once.field (h : Once (fieldNames shape) ms) {f : Field α} (hf : f ∈ shape) :
    (ms.map Prod.fst).count f.name ≤ 1 := h f.name (List.mem_map_of_mem hf)

/-- What an object is read as, member by member. The reader sees only the cells that `fields?` has
laid out. As no field has two members, each cell holds what the member of its field does
(`stands_lookup`), so that the cells say of the record what the members say. -/
theorem Follows.object_eq_some (h : Follows shape ofFields?) :
    ((object ms).fields? (fieldNames shape)).bind ofFields? = some m
      ↔ Accepted shape ms ∧ Given shape ms m := by
  rw [bind_fields?_object]
  constructor
  · intro hread
    split at hread
    · rename_i honce
      -- what a field holds was read from its own cell, which is that of its only member
      have hstands := ((h.fields.reads _ m).mp hread).2
      have hfield (f : Field α) (hf : f ∈ shape) :=
        (stands_lookup f (honce.field hf) (f.get m)).mp (hstands f hf)
      have hgiven : Given shape ms m := ⟨fun f hf => (hfield f hf).1, fun f hf => (hfield f hf).2⟩
      refine ⟨⟨honce, fun f hf j hj => ⟨_, hgiven.value f hf j hj⟩, ?_⟩, hgiven⟩
      intro f hf hdefault
      -- a field without a value of its own cannot be absent
      apply Classical.byContradiction
      intro hnone
      rw [hgiven.absent f hf fun j hj => hnone ⟨j, hj⟩] at hdefault
      cases hdefault
    · cases hread
  · rintro ⟨haccepted, hgiven⟩
    rw [if_pos haccepted.once]
    refine (h.fields.reads _ m).mpr ⟨trivial, ?_⟩
    intro f hf
    rw [stands_lookup f (haccepted.once.field hf)]
    exact ⟨hgiven.value f hf, hgiven.absent f hf⟩

theorem Follows.exists_object (h : Follows shape ofFields?) :
    (∃ m, ((object ms).fields? (fieldNames shape)).bind ofFields? = some m)
      ↔ Accepted shape ms := by
  constructor
  · rintro ⟨m, hm⟩
    exact (h.object_eq_some.mp hm).1
  · intro haccepted
    rw [bind_fields?_object, if_pos haccepted.once]
    apply h.fields.total
    intro f hf
    cases hlookup : ms.lookup f.name with
    | some j => exact haccepted.typed f hf j ((lookup_eq_some (haccepted.once.field hf)).mp hlookup)
    | none =>
        apply Option.ne_none_iff_exists'.mp
        intro hdefault
        obtain ⟨j, hj⟩ := haccepted.present f hf hdefault
        exact lookup_eq_none.mp hlookup j hj

/-- Objects that give the fields the same values. -/
structure SameFields (shape : List (Field α)) (ms ms' : List (String × Json)) : Prop where
  count : ∀ n ∈ fieldNames shape, (ms.map Prod.fst).count n = (ms'.map Prod.fst).count n
  mem : ∀ n ∈ fieldNames shape, ∀ j, (n, j) ∈ ms ↔ (n, j) ∈ ms'

/-- Only the members that name a field matter, and not their order. -/
theorem sameFields_of_perm {ms' : List (String × Json)}
    (h : (ms.filter fun m => m.1 ∈ fieldNames shape).Perm
      (ms'.filter fun m => m.1 ∈ fieldNames shape)) : SameFields shape ms ms' where
  count n hn := by
    have hcount (ms : List (String × Json)) : (ms.map Prod.fst).count n
        = ((ms.filter fun m => m.1 ∈ fieldNames shape).map Prod.fst).count n := by
      rw [List.count_eq_countP, List.count_eq_countP, List.countP_map, List.countP_map,
        List.countP_filter]
      apply List.countP_congr
      rintro ⟨k, j⟩ -
      simp only [Function.comp_apply, beq_iff_eq, Bool.and_eq_true, decide_eq_true_eq]
      exact ⟨fun hk => ⟨hk, hk ▸ hn⟩, fun hk => hk.1⟩
    rw [hcount ms, hcount ms', (h.map Prod.fst).count_eq]
  mem n hn j := by
    have hmem (ms : List (String × Json)) :
        (n, j) ∈ ms ↔ (n, j) ∈ ms.filter fun m => m.1 ∈ fieldNames shape := by
      rw [List.mem_filter, decide_eq_true_eq]
      exact ⟨fun hm => ⟨hm, hn⟩, fun hm => hm.1⟩
    rw [hmem ms, hmem ms', h.mem_iff]

theorem SameFields.symm {ms' : List (String × Json)} (h : SameFields shape ms ms') :
    SameFields shape ms' ms where
  count n hn := (h.count n hn).symm
  mem n hn j := (h.mem n hn j).symm

theorem SameFields.accepted {ms' : List (String × Json)} (h : SameFields shape ms ms')
    (haccepted : Accepted shape ms) : Accepted shape ms' where
  once n hn := by
    rw [← h.count n hn]
    exact haccepted.once n hn
  typed f hf j hj := haccepted.typed f hf j ((h.mem _ (List.mem_map_of_mem hf) j).mpr hj)
  present f hf hdefault := by
    obtain ⟨j, hj⟩ := haccepted.present f hf hdefault
    exact ⟨j, (h.mem _ (List.mem_map_of_mem hf) j).mp hj⟩

theorem SameFields.given {ms' : List (String × Json)} (h : SameFields shape ms ms')
    (hgiven : Given shape ms m) : Given shape ms' m where
  value f hf j hj := hgiven.value f hf j ((h.mem _ (List.mem_map_of_mem hf) j).mpr hj)
  absent f hf hnone := hgiven.absent f hf fun j hj =>
    hnone j ((h.mem _ (List.mem_map_of_mem hf) j).mp hj)

/-- A reader that goes by a shape reads the records of that shape. -/
theorem Follows.readsRecord (h : Follows shape ofFields?) :
    ReadsRecord shape fun j => (j.fields? (fieldNames shape)).bind ofFields? := by
  have hnames : (fieldNames shape).length = shape.length := List.length_map _
  have hlist (values : List Json) (hlength : values.length ≤ shape.length) :
      ((list values).fields? (fieldNames shape)).bind ofFields?
        = ((object ((fieldNames shape).zip values)).fields? (fieldNames shape)).bind ofFields? := by
    rw [fields?_list h.nodup (hnames ▸ hlength)]
  have hlong (values : List Json) (hlength : shape.length < values.length) :
      ((list values).fields? (fieldNames shape)).bind ofFields? = none := by
    rw [fields?_long (hnames ▸ hlength)]
    rfl
  refine { exact := ?_, accepts := fun ms => h.exists_object,
           result := fun ms m => h.object_eq_some, same := ?_, list := hlist, long := hlong }
  · intro j m
    constructor
    · intro hread
      obtain ⟨cells, hcells, -⟩ := Option.bind_eq_some_iff.mp hread
      rcases eq_of_fields? hcells with ⟨ms, rfl⟩ | ⟨values, rfl⟩
      · obtain ⟨haccepted, hgiven⟩ := h.object_eq_some.mp hread
        exact .object haccepted hgiven
      · have hlength : values.length ≤ shape.length := by
          rw [← Nat.not_lt]
          intro hlt
          rw [hlong values hlt] at hread
          cases hread
        rw [hlist values hlength] at hread
        obtain ⟨haccepted, hgiven⟩ := h.object_eq_some.mp hread
        exact .list hlength haccepted hgiven
    · intro hrecord
      cases hrecord with
      | object haccepted hgiven => exact h.object_eq_some.mpr ⟨haccepted, hgiven⟩
      | list hlength haccepted hgiven =>
          rw [hlist _ hlength]
          exact h.object_eq_some.mpr ⟨haccepted, hgiven⟩
  · intro ms ms' hperm
    have hsame := sameFields_of_perm hperm
    apply Option.ext
    intro m
    rw [h.object_eq_some, h.object_eq_some]
    exact ⟨fun hm => ⟨hsame.accepted hm.1, hsame.given hm.2⟩,
      fun hm => ⟨hsame.symm.accepted hm.1, hsame.symm.given hm.2⟩⟩

end Records

end ChainWatch.Json
