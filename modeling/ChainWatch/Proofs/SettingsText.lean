/-
Settings are read back from their text.

The levels of the components are written as an object of texts, and its members may stand in any
order: what they make is the same map (`TextMap.ofList_of_perm`). All else has its place in the
text, so the readers undo the writers field by field (`ofJson?_toJsonWith`), and the text itself is
read as the object that was written (`Json.parse?_render`).
-/
import ChainWatch.Settings
import ChainWatch.Proofs.MessageFields
import ChainWatch.Proofs.MessageText
import ChainWatch.Proofs.TextMap

set_option autoImplicit false

namespace ChainWatch

namespace LogSettings

/-! ## 1. Objects of texts -/

theorem entryOf?_eq_some {member : Option String × Json} {entry : TextEntry} :
    entryOf? member = some entry ↔ member = (some entry.1, .text entry.2) := by
  obtain ⟨name, value⟩ := member
  obtain ⟨key, level⟩ := entry
  cases name with
  | none => simp [entryOf?]
  | some name =>
      rw [entryOf?, Option.map_eq_some_iff, Prod.mk.injEq, Option.some.injEq]
      constructor
      · rintro ⟨found, hfound, heq⟩
        rw [Prod.mk.injEq] at heq
        exact ⟨heq.1, heq.2 ▸ Json.text?_eq_some.mp hfound⟩
      · rintro ⟨rfl, rfl⟩
        exact ⟨level, Json.text?_text level, rfl⟩

theorem mapM_entryOf?_eq_some {members : List (Option String × Json)} {entries : List TextEntry} :
    members.mapM entryOf? = some entries
      ↔ members = entries.map fun entry => (some entry.1, .text entry.2) := by
  induction members generalizing entries with
  | nil =>
      rw [List.mapM_nil, eq_comm (a := []), List.map_eq_nil_iff, Option.pure_def, Option.some.injEq,
        eq_comm]
  | cons member members ih =>
      rw [List.mapM_cons, eq_comm (a := member :: members), List.map_eq_cons_iff]
      constructor
      · intro h
        obtain ⟨entry, hentry, h⟩ := Option.bind_eq_some_iff.mp h
        obtain ⟨rest, hrest, h⟩ := Option.bind_eq_some_iff.mp h
        cases h
        exact ⟨entry, rest, rfl, (entryOf?_eq_some.mp hentry).symm, (ih.mp hrest).symm⟩
      · rintro ⟨entry, rest, rfl, hentry, hrest⟩
        rw [entryOf?_eq_some.mpr hentry.symm, ih.mpr hrest.symm]
        rfl

/-- Entries are read from the object they are written as, in the same order. -/
theorem entries?_eq_some {j : Json} {entries : List TextEntry} :
    entries? j = some entries ↔ j = entriesJson entries := by
  cases j with
  | record members =>
      rw [entries?, mapM_entryOf?_eq_some, entriesJson, Json.object, Json.record.injEq,
        List.map_map]
      rfl
  | _ => simp [entries?, entriesJson, Json.object]

theorem unadorned_entriesJson (entries : List TextEntry) :
    Json.Unadorned (entriesJson entries).tokens := by
  apply Json.unadorned_object
  rw [List.forall_mem_map]
  exact fun entry _ => Json.unadorned_str (some entry.2)

/-! ## 2. The log settings -/

theorem unadorned_toJsonWith (components : List TextEntry) (s : LogSettings) :
    Json.Unadorned (s.toJsonWith components).tokens := by
  apply Json.unadorned_object
  simp only [List.forall_mem_cons]
  exact ⟨Json.unadorned_str _, unadorned_entriesJson components, Json.unadorned_bool _, nofun⟩

theorem fields?_toJsonWith (components : List TextEntry) (s : LogSettings) :
    (s.toJsonWith components).fields? names
      = some [some (.text s.level), some (entriesJson components), some (.bool s.json)] :=
  Json.fields?_zip (by decide) [.text s.level, entriesJson components, .bool s.json] rfl

theorem ofJson?_toJsonWith {s : LogSettings} {components : List TextEntry}
    (h : components.Perm s.components.entries) : ofJson? (s.toJsonWith components) = some s := by
  have hcomponents : components? (entriesJson components) = some s.components := by
    rw [components?, entries?_eq_some.mpr rfl, Option.map_some, TextMap.ofList_of_perm h]
  rw [ofJson?, fields?_toJsonWith, Option.bind_some]
  simp only [ofFields?, Json.withDefault_some, Json.text?_text, hcomponents, Json.bool?_bool]
  rfl

/-- The order in which the components are taken does not show in the filter text. -/
theorem directivesWith_of_perm {s : LogSettings} {components : List TextEntry}
    (h : components.Perm s.components.entries) : s.directivesWith components = s.directives := by
  rw [directives, directivesWith, directivesWith, TextMap.mergeSort_of_perm h,
    TextMap.mergeSort_of_perm (List.Perm.refl _)]

end LogSettings

namespace Settings

/-! ## 3. The settings of the client -/

theorem unadorned_toJsonWith (components : List TextEntry) (s : Settings) :
    Json.Unadorned (s.toJsonWith components).tokens := by
  apply Json.unadorned_object
  simp only [List.forall_mem_cons]
  exact ⟨Json.unadorned_nat _, s.log.unadorned_toJsonWith components, nofun⟩

theorem fields?_toJsonWith (components : List TextEntry) (s : Settings) :
    (s.toJsonWith components).fields? names
      = some [some (.nat s.rpcTimeoutMs.toNat), some (s.log.toJsonWith components)] :=
  Json.fields?_zip (by decide) [.nat s.rpcTimeoutMs.toNat, s.log.toJsonWith components] rfl

theorem ofJson?_toJsonWith {s : Settings} {components : List TextEntry}
    (h : components.Perm s.log.components.entries) :
    ofJson? (s.toJsonWith components) = some s := by
  rw [ofJson?, fields?_toJsonWith, Option.bind_some]
  simp only [ofFields?, Json.withDefault_some, Json.u64?_nat, LogSettings.ofJson?_toJsonWith h]
  rfl

end Settings

/-- Settings are read back from their text, whatever the order in which the components are written,
and ask for the same filter, whatever the order in which the components are then taken. -/
theorem settings_round_trip (s : Settings) (written : List TextEntry)
    (h : written.Perm s.log.components.entries) :
    (Json.parse? (s.toJsonWith written).render).bind Settings.ofJson? = some s
    ∧ (∀ taken : List TextEntry, taken.Perm s.log.components.entries →
      s.log.directivesWith taken = s.log.directives)
    ∧ s.survivesText = true := by
  have hback {written : List TextEntry} (h : written.Perm s.log.components.entries) :
      (Json.parse? (s.toJsonWith written).render).bind Settings.ofJson? = some s := by
    rw [Json.parse?_render (s.unadorned_toJsonWith written), Option.bind_some,
      Settings.ofJson?_toJsonWith h]
  refine ⟨hback h, fun _ => LogSettings.directivesWith_of_perm, ?_⟩
  have hown : (Json.parse? s.toJson.render).bind Settings.ofJson? = some s := hback (.refl _)
  rw [Settings.survivesText, hown]
  simp

/-- The longest timeout, a name without characters, and a name with a control character, written in
reverse. -/
theorem settings_round_trip_reversed :
    let entries : List TextEntry := [("", "off"), ("é\x00-", "\n")]
    let s : Settings := ⟨18446744073709551615, ⟨"debug", .ofList entries, true⟩⟩
    entries.reverse.Perm s.log.components.entries
    ∧ entries.reverse ≠ s.log.components.entries
    ∧ (Json.parse? (s.toJsonWith entries.reverse).render).bind Settings.ofJson? = some s := by
  intro entries s
  have hperm : entries.reverse.Perm s.log.components.entries := by decide
  exact ⟨hperm, by decide, (settings_round_trip s entries.reverse hperm).1⟩

end ChainWatch
