/-
Maps from text to text.

A map lists its keys in the order of their UTF-8 bytes, each once, so two maps with the
same values are the same map and there is only one order to list one in. A key that is
written again takes the last value.
-/
import ChainWatch.Bytes

set_option autoImplicit false

namespace ChainWatch

/-- One key and its value. -/
abbrev TextEntry : Type := String × String

/-- Whether the key of one entry stands before the key of another. -/
def TextEntry.Before (a b : TextEntry) : Prop := utf8 a.1 < utf8 b.1

/-- Whether one entry may stand in front of another when entries are sorted: the keys decide, and
for one key the values. -/
def TextEntry.le (a b : TextEntry) : Bool :=
  utf8 a.1 < utf8 b.1 || (a.1 = b.1 && utf8 a.2 ≤ utf8 b.2)

/-- A map from text to text, listed in the byte order of its keys. -/
structure TextMap where
  entries : List TextEntry
  ascending : entries.Pairwise TextEntry.Before
  deriving DecidableEq

namespace TextMap

def empty : TextMap := ⟨[], .nil⟩

/-- Puts an entry into its place, instead of one with the same key if there is one. -/
def place (entry : TextEntry) : List TextEntry → List TextEntry
  | [] => [entry]
  | head :: rest =>
      if utf8 entry.1 < utf8 head.1 then entry :: head :: rest
      else if utf8 head.1 < utf8 entry.1 then head :: place entry rest
      else entry :: rest

theorem mem_place {entry other : TextEntry} {entries : List TextEntry}
    (h : other ∈ place entry entries) : other = entry ∨ other ∈ entries := by
  induction entries with
  | nil =>
      simp only [place, List.mem_singleton] at h
      exact .inl h
  | cons head rest ih =>
      simp only [place] at h
      split at h
      · rcases List.mem_cons.mp h with h | h
        · exact .inl h
        · exact .inr h
      · split at h
        · rcases List.mem_cons.mp h with h | h
          · exact .inr (h ▸ List.mem_cons_self)
          · exact (ih h).imp id (List.mem_cons_of_mem head)
        · rcases List.mem_cons.mp h with h | h
          · exact .inl h
          · exact .inr (List.mem_cons_of_mem head h)

/-- Placing keeps the keys ascending, whichever of the three cases it ends in. -/
theorem pairwise_place (entry : TextEntry) {entries : List TextEntry}
    (h : entries.Pairwise TextEntry.Before) : (place entry entries).Pairwise TextEntry.Before := by
  induction entries with
  | nil => exact List.pairwise_singleton _ _
  | cons head rest ih =>
      have hhead := (List.pairwise_cons.mp h).1
      have hrest := (List.pairwise_cons.mp h).2
      simp only [place]
      split
      -- the entry goes before the head
      · rename_i hlt
        refine List.pairwise_cons.mpr ⟨fun other hother => ?_, h⟩
        rcases List.mem_cons.mp hother with rfl | hmem
        · exact hlt
        · exact List.lt_trans hlt (hhead other hmem)
      · split
        -- it goes somewhere behind the head
        · rename_i hlt
          refine List.pairwise_cons.mpr ⟨fun other hother => ?_, ih hrest⟩
          rcases mem_place hother with rfl | hmem
          · exact hlt
          · exact hhead other hmem
        -- it takes the place of the head, whose key is its own
        · rename_i hnot hnot'
          have heq : utf8 entry.1 = utf8 head.1 :=
            List.le_antisymm (List.not_lt.mp hnot') (List.not_lt.mp hnot)
          refine List.pairwise_cons.mpr ⟨fun other hmem => ?_, hrest⟩
          have hbefore : utf8 head.1 < utf8 other.1 := hhead other hmem
          show utf8 entry.1 < utf8 other.1
          rw [heq]
          exact hbefore

/-- The map in which `key` has the value `value` and every other key the one it had. -/
def insert (m : TextMap) (key value : String) : TextMap :=
  ⟨place (key, value) m.entries, pairwise_place _ m.ascending⟩

/-- The value of a key. -/
def get? (m : TextMap) (key : String) : Option String := m.entries.lookup key

/-- The map that a list of entries writes, one after the other. -/
def ofList (entries : List TextEntry) : TextMap :=
  entries.foldl (fun m entry => m.insert entry.1 entry.2) empty

/-- The entries in the byte order of their keys. -/
def toList (m : TextMap) : List TextEntry := m.entries

end TextMap

end ChainWatch
