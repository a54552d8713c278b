/-
What a map says after something was written.

Keys are compared by their bytes, and texts with the same bytes are the same (`utf8_injective`). So
the place of a key is that key's own, and writing one key changes what is found under no other. What
is found under a key is what was written there last (`get?_ofList`), and the entries that are listed
are those that are found (`mem_toList`), as is the case in every list in which a key stands once
(`lookup_eq_some`).

Ascending entries are determined by which entries they are (`eq_of_mem_iff`). Hence the entries of a
map make that map in whatever order they are written (`ofList_of_perm`), and are listed as the map
lists them once they are sorted (`mergeSort_of_perm`).
-/
import ChainWatch.TextMap

set_option autoImplicit false

namespace ChainWatch

theorem utf8_injective {s s' : String} (h : utf8 s = utf8 s') : s = s' := by
  have hbytes : s.toByteArray = s'.toByteArray := by
    rw [← String.utf8Encode_toList, ← String.utf8Encode_toList, List.utf8Encode, List.utf8Encode]
    exact congrArg List.toByteArray h
  exact String.toByteArray_inj.mp hbytes

/-! ## 1. The order of entries -/

namespace TextEntry

theorem not_before {a b : TextEntry} (h : a.1 = b.1) : ¬ a.Before b := by
  unfold Before
  rw [h]
  exact List.lt_irrefl (utf8 b.1)

theorem before_asymm {a b : TextEntry} (hab : a.Before b) : ¬ b.Before a := fun hba =>
  not_before rfl (List.lt_trans hab hba)

/-- Of two keys one stands before the other, unless they are the same. -/
theorem key_eq {a b : TextEntry} (hab : ¬ a.Before b) (hba : ¬ b.Before a) : a.1 = b.1 :=
  utf8_injective (List.le_antisymm (List.not_lt.mp hba) (List.not_lt.mp hab))

theorem le_iff {a b : TextEntry} :
    a.le b = true ↔ a.Before b ∨ a.1 = b.1 ∧ utf8 a.2 ≤ utf8 b.2 := by
  rw [le, Bool.or_eq_true, Bool.and_eq_true, decide_eq_true_eq, decide_eq_true_eq,
    decide_eq_true_eq]
  rfl

theorem le_trans (a b c : TextEntry) (hab : a.le b = true) (hbc : b.le c = true) :
    a.le c = true := by
  rw [le_iff] at hab hbc ⊢
  unfold Before at hab hbc ⊢
  rcases hab with hlt | ⟨hkey, hle⟩
  · rcases hbc with hlt' | ⟨hkey', -⟩
    · exact .inl (List.lt_trans hlt hlt')
    · exact .inl (hkey' ▸ hlt)
  · rcases hbc with hlt' | ⟨hkey', hle'⟩
    · exact .inl (hkey ▸ hlt')
    · exact .inr ⟨hkey.trans hkey', List.le_trans hle hle'⟩

theorem le_total (a b : TextEntry) : (a.le b || b.le a) = true := by
  rw [Bool.or_eq_true, le_iff, le_iff]
  by_cases hab : a.Before b
  · exact .inl (.inl hab)
  by_cases hba : b.Before a
  · exact .inr (.inl hba)
  -- neither key stands before the other, so it is up to the values
  have hkey := key_eq hab hba
  rcases List.le_total (utf8 a.2) (utf8 b.2) with hle | hle
  · exact .inl (.inr ⟨hkey, hle⟩)
  · exact .inr (.inr ⟨hkey.symm, hle⟩)

theorem le_antisymm {a b : TextEntry} (hab : a.le b = true) (hba : b.le a = true) : a = b := by
  rw [le_iff] at hab hba
  rcases hab with hlt | ⟨hkey, hle⟩
  · rcases hba with hlt' | ⟨hkey', -⟩
    · exact absurd hlt' (before_asymm hlt)
    · exact absurd hlt (not_before hkey'.symm)
  · have hle' := (hba.resolve_left (not_before hkey.symm)).2
    exact Prod.ext hkey (utf8_injective (List.le_antisymm hle hle'))

end TextEntry

/-! ## 2. Entries by key -/

section Lookup

variable {β : Type}

theorem lookup_cons_ite (entry : String × β) (rest : List (String × β)) (key : String) :
    (entry :: rest).lookup key = if key = entry.1 then some entry.2 else rest.lookup key := by
  by_cases hkey : key = entry.1
  · rw [if_pos hkey, hkey, List.lookup_cons_self]
  · rw [if_neg hkey, List.lookup_cons, beq_false_of_ne hkey]

/-- Where a key stands for one entry only, that entry is found. -/
theorem lookup_eq_some {entries : List (String × β)} {key : String}
    (honce : (entries.map Prod.fst).count key ≤ 1) {value : β} :
    entries.lookup key = some value ↔ (key, value) ∈ entries := by
  induction entries with
  | nil => exact ⟨nofun, nofun⟩
  | cons head rest ih =>
      rw [List.map_cons, List.count_cons] at honce
      rw [lookup_cons_ite, List.mem_cons, Prod.ext_iff]
      by_cases hkey : key = head.1
      · -- the key stands nowhere behind the head
        rw [if_pos (beq_iff_eq.mpr hkey.symm)] at honce
        have hnone : key ∉ rest.map Prod.fst := List.count_eq_zero.mp (by omega)
        have hnot : (key, value) ∉ rest := fun hmem =>
          hnone (List.mem_map_of_mem (f := Prod.fst) hmem)
        rw [if_pos hkey, Option.some.injEq, or_iff_left hnot, eq_comm (a := head.2)]
        exact (and_iff_right hkey).symm
      · rw [if_neg hkey, ih (by omega), or_iff_right fun heq => hkey heq.1]

end Lookup

namespace TextMap

/-! ## 3. Writes -/

/-- What is found after one write. The entry goes in front of the first one that stands behind it,
or takes the place of the one that has its key. Those it goes behind have other keys, so they are
found as before. -/
theorem lookup_place (entry : TextEntry) (entries : List TextEntry) (key : String) :
    (place entry entries).lookup key
      = if key = entry.1 then some entry.2 else entries.lookup key := by
  induction entries with
  | nil => exact lookup_cons_ite entry [] key
  | cons head rest ih =>
      rw [place]
      split
      · exact lookup_cons_ite entry (head :: rest) key
      split
      · -- it stands somewhere behind the head, whose key is another one
        rename_i hlt
        have hne : head.1 ≠ entry.1 := fun heq => TextEntry.not_before heq hlt
        rw [lookup_cons_ite, lookup_cons_ite, ih]
        by_cases hhead : key = head.1
        · rw [if_pos hhead, if_pos hhead, if_neg (hhead ▸ hne)]
        · rw [if_neg hhead, if_neg hhead]
      · -- it takes the place of the head
        rename_i hnot hnot'
        have hsame : entry.1 = head.1 := TextEntry.key_eq hnot hnot'
        rw [lookup_cons_ite, lookup_cons_ite, ← hsame]
        by_cases hkey : key = entry.1
        · rw [if_pos hkey, if_pos hkey]
        · rw [if_neg hkey, if_neg hkey, if_neg hkey]

/-- The key that was written has the value, and the others have what they had. -/
theorem get?_insert (m : TextMap) (key value other : String) :
    (m.insert key value).get? other = if other = key then some value else m.get? other :=
  lookup_place (key, value) m.entries other

/-- What was written last to a key, of several writes. -/
def lastWrite? (writes : List TextEntry) (key : String) : Option String := writes.reverse.lookup key

theorem get?_foldl_insert (writes : List TextEntry) (m : TextMap) (key : String) :
    (writes.foldl (fun m entry => m.insert entry.1 entry.2) m).get? key
      = (lastWrite? writes key).or (m.get? key) := by
  induction writes generalizing m with
  | nil => rfl
  | cons entry writes ih =>
      rw [List.foldl_cons, ih, get?_insert, lastWrite?, lastWrite?, List.reverse_cons,
        List.lookup_append, Option.or_assoc, lookup_cons_ite]
      by_cases hkey : key = entry.1
      · rw [if_pos hkey, if_pos hkey, Option.some_or]
      · rw [if_neg hkey, if_neg hkey, List.lookup_nil, Option.none_or]

theorem get?_ofList (writes : List TextEntry) (key : String) :
    (ofList writes).get? key = lastWrite? writes key := by
  rw [ofList, get?_foldl_insert]
  exact Option.or_none

theorem keys_nodup (m : TextMap) : (m.entries.map Prod.fst).Nodup := by
  rw [List.nodup_iff_pairwise_ne, List.pairwise_map]
  exact m.ascending.imp fun hbefore hkey => TextEntry.not_before hkey hbefore

theorem mem_toList {m : TextMap} {entry : TextEntry} :
    entry ∈ m.toList ↔ m.get? entry.1 = some entry.2 :=
  (lookup_eq_some (List.nodup_iff_count.mp m.keys_nodup entry.1)).symm

/-! ## 4. Entries in any order -/

/-- If no key is written twice, everything that is written is written last. -/
theorem lastWrite?_iff_mem {writes : List TextEntry} (h : (writes.map Prod.fst).Nodup)
    {key value : String} : lastWrite? writes key = some value ↔ (key, value) ∈ writes := by
  have hperm := (List.reverse_perm writes).map Prod.fst
  have hreverse : (writes.reverse.map Prod.fst).Nodup := hperm.nodup_iff.mpr h
  rw [lastWrite?, lookup_eq_some (List.nodup_iff_count.mp hreverse key), List.mem_reverse]

/-- There is one order to list entries in, so it is enough to know which they are. -/
theorem eq_of_mem_iff {entries entries' : List TextEntry} (h : entries.Pairwise TextEntry.Before)
    (h' : entries'.Pairwise TextEntry.Before)
    (hmem : ∀ entry, entry ∈ entries ↔ entry ∈ entries') : entries = entries' := by
  have hnodup {entries : List TextEntry} (h : entries.Pairwise TextEntry.Before) :
      entries.Nodup := by
    rw [List.nodup_iff_pairwise_ne]
    refine h.imp ?_
    rintro a b hbefore rfl
    exact TextEntry.not_before rfl hbefore
  have hperm := (List.perm_ext_iff_of_nodup (hnodup h) (hnodup h')).mpr hmem
  exact hperm.eq_of_pairwise (fun a b _ _ hab hba => absurd hba (TextEntry.before_asymm hab)) h h'

/-- Maps in which the same is found are the same. -/
theorem eq_of_get?_eq {m m' : TextMap} (h : ∀ key, m.get? key = m'.get? key) : m = m' := by
  have hentries : m.entries = m'.entries := by
    apply eq_of_mem_iff m.ascending m'.ascending
    intro entry
    have hm : entry ∈ m.entries ↔ m.get? entry.1 = some entry.2 := mem_toList
    have hm' : entry ∈ m'.entries ↔ m'.get? entry.1 = some entry.2 := mem_toList
    rw [hm, hm', h]
  cases m
  cases m'
  rw [mk.injEq]
  exact hentries

/-- A map is made of its entries, in whatever order they are written. -/
theorem ofList_of_perm {m : TextMap} {entries : List TextEntry} (h : entries.Perm m.entries) :
    ofList entries = m := by
  have hnodup : (entries.map Prod.fst).Nodup := (h.map Prod.fst).nodup_iff.mpr m.keys_nodup
  apply eq_of_get?_eq
  intro key
  apply Option.ext
  intro value
  have hm : (key, value) ∈ m.entries ↔ m.get? key = some value := mem_toList
  rw [get?_ofList, lastWrite?_iff_mem hnodup, h.mem_iff, hm]

/-- The entries of a map are sorted into the order in which it lists them. -/
theorem mergeSort_of_perm {m : TextMap} {entries : List TextEntry} (h : entries.Perm m.entries) :
    entries.mergeSort TextEntry.le = m.entries := by
  have hsorted := List.pairwise_mergeSort TextEntry.le_trans TextEntry.le_total entries
  have hascending : m.entries.Pairwise fun a b => a.le b = true :=
    m.ascending.imp fun hbefore => TextEntry.le_iff.mpr (.inl hbefore)
  have hperm := (List.mergeSort_perm entries TextEntry.le).trans h
  exact hperm.eq_of_pairwise (fun _ _ _ _ => TextEntry.le_antisymm) hsorted hascending

end TextMap

end ChainWatch
