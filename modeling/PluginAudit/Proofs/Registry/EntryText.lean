import PluginAudit.Proofs.Registry.Reloading

/-!
# The text of one entry

An entry shares one object with the fields of the manifest from which it is
made. Its own two keys are taken out of the fields, written behind them and read
apart from them again, so that a manifest may use these keys itself: what is read
from the text of an entry is the entry, in the compact text as in the pretty one
(`entry_survives_text`). The only texts that are not read are those that are
nested more deeply than the reader allows.
-/

set_option autoImplicit false

namespace PluginAudit.Registry

open Json (Members Every Regular Spacing openLimit)

/-- The fields of a manifest that an entry keeps: those under other keys than its own. -/
def Entry.fieldsOf (metadata : Members) : Members :=
  metadata.filter fun field => field.1 ≠ flagKey ∧ field.1 ≠ timeKey

/-- The metadata of an entry are the fields of the manifest that it keeps. -/
theorem Entry.metadata_perm {metadata : Members} (distinct : metadata.keys.Nodup)
    (instant : Instant) : (ofManifest metadata instant).metadata.Perm (fieldsOf metadata) := by
  have first := Members.remove_perm distinct flagKey
  have second := Members.remove_perm (Members.nodup_remove distinct flagKey).1 timeKey
  refine (second.trans (first.filter _)).trans (.of_eq ?_)
  rw [List.filter_filter, fieldsOf]
  exact List.filter_congr fun field _ => by rw [Bool.decide_and, Bool.and_comm]

/-- A text is read as an entry, and as no other, if the document of the entry is not nested too
deeply. Otherwise it is not read. -/
def Entry.Survives (entry : Entry) (text : String) : Prop :=
  ∀ read, Entry.parse text = .ok read ↔ entry.toJson.depth ≤ openLimit ∧ read = entry

/-- An entry that nothing blurs survives its text in every spacing. -/
theorem Entry.Readable.survives {entry : Entry} (readable : entry.Readable) (spacing : Spacing) :
    entry.Survives (String.ofList (spacing.chars 0 entry.toJson)) := by
  intro read
  have reads := toOption_entryReader spacing readable.toOrderly openLimit 0 []
  rw [List.append_nil] at reads
  rw [← Json.toOption_eq_some, Entry.parse, toOption_mapError, Json.document, Json.toOption_bind,
    String.toList_ofList, reads]
  by_cases shallow : entry.toJson.depth ≤ openLimit
  · rw [if_pos ⟨shallow, readable.inFourDigits⟩, and_iff_right shallow, eq_comm]
    exact Option.some_inj
  · rw [if_neg fun both => shallow both.1]
    exact iff_of_false (Option.some_ne_none read).symm fun both => shallow both.1

/-- **An entry survives its text,** the compact one and the pretty one. It has the fields of its
manifest but for those under its own keys, is marked as validated and keeps its instant. That a
number which is no integer is read back as it is printed is asked of the fields that it keeps. -/
theorem entry_survives_text {metadata : Members} {instant : Instant}
    (distinct : metadata.keys.Nodup) (regular : ∀ field ∈ metadata, field.2.Every Regular)
    (doubles : ∀ field ∈ Entry.fieldsOf metadata, field.2.Every DoubleReadsBack)
    (written : instant.Written) :
    ∃ entry, Entry.ofManifest metadata instant = entry ∧
      entry.metadata.Perm (Entry.fieldsOf metadata) ∧ entry.metadata.keys.Nodup ∧
      entry.validated = true ∧ entry.validatedAt = instant ∧
      entry.Survives entry.toJson.compact ∧ entry.Survives entry.toJson.pretty := by
  obtain ⟨proper, inFourDigits⟩ := Instant.written_iff.mp written
  have fields := Entry.metadata_perm distinct instant
  have orderly : (Entry.ofManifest metadata instant).Orderly :=
    Entry.orderly_ofManifest distinct regular
      (fun field among => doubles field (fields.mem_iff.mp among)) proper
  have readable : (Entry.ofManifest metadata instant).Readable := ⟨orderly, inFourDigits⟩
  refine ⟨_, rfl, fields, orderly.distinct, rfl, rfl, ?_, ?_⟩
  · rw [Json.compact, ← Spacing.chars_compact 0]
    exact readable.survives .compact
  · rw [Json.pretty, ← Spacing.chars_pretty 0]
    exact readable.survives .pretty

/-! ## A manifest with the keys of an entry -/

/-- The fields of a manifest that uses both keys of an entry, between others of which one is no
integer. -/
def reservedMetadata : Members :=
  [("id", .string "p"), (timeKey, .null), ("weight", .number (.double ⟨false, 2 ^ 52, -53⟩)),
    (flagKey, .array [.bool false]), ("hooks", .array [.string "connect", .number (.integer (-1))])]

/-- Half of the leap second at the end of the year 2016. -/
def leapSecond : Instant := ⟨1483228799, 1500000000⟩

/-- **An entry from a leap second survives,** and takes no field under its own keys. -/
theorem leap_second_entry_survives :
    reservedMetadata.keys.Nodup ∧ (∀ field ∈ reservedMetadata, field.2.Every Regular) ∧
      (∀ field ∈ Entry.fieldsOf reservedMetadata, field.2.Every DoubleReadsBack) ∧
      leapSecond.Written ∧
      ∃ entry, Entry.ofManifest reservedMetadata leapSecond = entry ∧
        entry.metadata.Perm (Entry.fieldsOf reservedMetadata) ∧ entry.metadata.keys.Nodup ∧
        entry.validated = true ∧ entry.validatedAt = leapSecond ∧
        entry.Survives entry.toJson.compact ∧ entry.Survives entry.toJson.pretty ∧
        Entry.parse entry.toJson.compact = .ok entry := by
  have distinct : reservedMetadata.keys.Nodup := by decide +kernel
  have regular : ∀ field ∈ reservedMetadata, field.2.Every Regular := by
    simp [reservedMetadata, Every, Json.EveryItem, Regular]
  have readsBack : (Json.Number.double ⟨false, 2 ^ 52, -53⟩).ReadsBack := by
    rw [Json.Number.ReadsBack]
    decide +kernel
  have doubles : ∀ field ∈ Entry.fieldsOf reservedMetadata, field.2.Every DoubleReadsBack := by
    have kept : Entry.fieldsOf reservedMetadata = [("id", .string "p"),
        ("weight", .number (.double ⟨false, 2 ^ 52, -53⟩)),
        ("hooks", .array [.string "connect", .number (.integer (-1))])] := by decide +kernel
    rw [kept]
    simpa [Every, Json.EveryItem, DoubleReadsBack] using readsBack
  have written : leapSecond.Written := ⟨by decide, by decide +kernel, by decide +kernel⟩
  obtain ⟨entry, made, fields, apart, flag, time, compact, pretty⟩ :=
    entry_survives_text distinct regular doubles written
  refine ⟨distinct, regular, doubles, written, entry, made, fields, apart, flag, time, compact,
    pretty, (compact entry).mpr ⟨?_, rfl⟩⟩
  rw [← made]
  decide +kernel

end PluginAudit.Registry
