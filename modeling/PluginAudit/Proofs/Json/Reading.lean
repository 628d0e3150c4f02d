import PluginAudit.Json.Typed
import PluginAudit.Proofs.Json.Structure

/-!
# What reading yields

Whatever the text, in a value that has been read the keys of every object are
distinct and every integer fits in 64 bits, with or without sign
(`value_regular`), and it is nested no deeper than the reader allows
(`depth_le_of_value`). The loops over items and members are told once: what each
item satisfies all items satisfy (`items_all`), and what storing a member keeps
the loop keeps (`members_keep`).
-/

set_option autoImplicit false

namespace PluginAudit.Json

/-- The keys of an object are distinct and an integer fits in 64 bits, with or without sign. -/
def Regular : Json → Prop
  | .number (.integer value) => -0x8000000000000000 ≤ value ∧ value ≤ 0xFFFFFFFFFFFFFFFF
  | .object members => (Members.keys members).Nodup
  | _ => True

/-! ## Numbers -/

theorem double_regular {negative : Bool} {digits : Nat} {exponent : Int} {text rest : List Char}
    {written : Number} (read : double negative digits exponent text = .ok (written, rest)) :
    Regular (.number written) := by
  unfold double at read
  split at read
  · cases read
  · obtain ⟨rfl, -⟩ := Prod.mk.inj (Except.ok.inj read)
    trivial

theorem exponentValue_regular {negative below : Bool} {digits : Nat} {start : Int}
    {text rest : List Char} {written : Number}
    (read : exponentValue negative digits start below text = .ok (written, rest)) :
    Regular (.number written) := by
  unfold exponentValue at read
  split at read
  · cases read
  · split at read
    · cases read
    · dsimp only at read
      split at read
      · split at read
        · cases read
        · obtain ⟨rfl, -⟩ := Prod.mk.inj (Except.ok.inj read)
          trivial
      · exact double_regular read

theorem exponentPart_regular {negative : Bool} {digits : Nat} {start : Int}
    {text rest : List Char} {written : Number}
    (read : exponentPart negative digits start text = .ok (written, rest)) :
    Regular (.number written) := by
  unfold exponentPart at read
  split at read <;> exact exponentValue_regular read

theorem afterDigits_regular {negative : Bool} {digits : Nat} {exponent : Int}
    {text rest : List Char} {written : Number}
    (read : afterDigits negative digits exponent text = .ok (written, rest)) :
    Regular (.number written) := by
  unfold afterDigits at read
  split at read
  · exact exponentPart_regular read
  · exact exponentPart_regular read
  · exact double_regular read

theorem fractionPart_regular {negative : Bool} {digits : Nat} {exponent : Int}
    {text rest : List Char} {written : Number}
    (read : fractionPart negative digits exponent text = .ok (written, rest)) :
    Regular (.number written) := by
  unfold fractionPart at read
  dsimp only at read
  split at read
  · split at read <;> cases read
  · exact afterDigits_regular read

theorem whole_regular {negative : Bool} {value : Nat} {dropped text rest : List Char}
    {written : Number} (fits : value ≤ largestWord)
    (read : whole negative value dropped text = .ok (written, rest)) :
    Regular (.number written) := by
  rw [largestWord] at fits
  unfold whole at read
  split at read
  · split at read
    · obtain ⟨rfl, -⟩ := Prod.mk.inj (Except.ok.inj read)
      exact ⟨by omega, by omega⟩
    · split at read
      · exact double_regular read
      · obtain ⟨rfl, -⟩ := Prod.mk.inj (Except.ok.inj read)
        exact ⟨by omega, by omega⟩
  · exact double_regular read

theorem leadingDigits_fits (digits : List Char) {start : Nat} (fits : start ≤ largestWord) :
    (leadingDigits start digits).1 ≤ largestWord := by
  induction digits generalizing start with
  | nil => exact fits
  | cons c digits ih =>
    rw [leadingDigits]
    split
    · exact fits
    · exact ih (by omega)

theorem numberBody_regular {negative : Bool} {text rest : List Char} {written : Number}
    (read : numberBody negative text = .ok (written, rest)) : Regular (.number written) := by
  unfold numberBody at read
  split at read
  · cases read
  · split at read
    · cases read
    · split at read
      · cases read
      · dsimp only at read
        unfold afterInteger at read
        split at read
        · exact fractionPart_regular read
        · exact exponentPart_regular read
        · exact exponentPart_regular read
        · exact whole_regular (leadingDigits_fits _ (Nat.zero_le _)) read

/-! ## Loops -/

theorem bind_ok {ε α β : Type} {first : Except ε α} {next : α → Except ε β} {result : β}
    (ran : first >>= next = .ok result) : ∃ value, first = .ok value ∧ next value = .ok result := by
  cases first with
  | error fault => cases ran
  | ok value => exact ⟨value, rfl, ran⟩

/-- What is read after the colon of a member, and then stored. -/
theorem afterColon_ok {α σ : Type} {reader : List Char → Except Fault (α × List Char)}
    (store : α → σ) {text rest : List Char} {next : σ}
    (ran : (colon text >>= fun text => reader text >>= fun found =>
      (pure (store found.1, found.2) : Except Fault (σ × List Char))) = .ok (next, rest)) :
    ∃ behind found, reader behind = .ok (found, rest) ∧ next = store found := by
  obtain ⟨behind, -, ran⟩ := bind_ok ran
  obtain ⟨⟨found, left⟩, read, ran⟩ := bind_ok ran
  obtain ⟨rfl, rfl⟩ := Prod.mk.inj (Except.ok.inj ran)
  exact ⟨behind, found, read, rfl⟩

/-- What holds of every item that is read holds of all items. -/
theorem items_all {α : Type} {item : List Char → Except Fault (α × List Char)} {holds : α → Prop}
    (each : ∀ text read rest, item text = .ok (read, rest) → holds read) {steps : Nat}
    {first : Bool} {text rest : List Char} {read : List α}
    (ran : items item steps first text = .ok (read, rest)) : ∀ one ∈ read, holds one := by
  induction steps generalizing first text read rest with
  | zero => cases ran
  | succ steps ih =>
    -- Both places where an item is read go on in the same way.
    have onward : ∀ {text : List Char},
        (item text >>= fun one => items item steps false one.2 >>= fun others =>
          (pure (one.1 :: others.1, others.2) : Except Fault (List α × List Char))) =
            .ok (read, rest) →
          ∀ one ∈ read, holds one := by
      intro text ran
      obtain ⟨⟨one, between⟩, isOne, ran⟩ := bind_ok ran
      obtain ⟨⟨others, behind⟩, areOthers, ran⟩ := bind_ok ran
      obtain ⟨rfl, -⟩ := Prod.mk.inj (Except.ok.inj ran)
      exact List.forall_mem_cons.mpr ⟨each _ _ _ isOne, ih areOthers⟩
    unfold items at ran
    split at ran
    · cases ran
    · obtain ⟨rfl, -⟩ := Prod.mk.inj (Except.ok.inj ran)
      exact fun one among => nomatch among
    · split at ran
      · cases ran
      · cases ran
      · exact onward ran
    · exact onward ran
    · cases ran

/-- What storing a member keeps is kept by storing all. -/
theorem members_keep {σ : Type} {member : σ → String → List Char → Except Fault (σ × List Char)}
    (holds : σ → Prop)
    (each : ∀ gathered key text next rest, holds gathered →
      member gathered key text = .ok (next, rest) → holds next) {steps : Nat} {first : Bool}
    {gathered final : σ} {text rest : List Char} (start : holds gathered)
    (ran : members member steps first gathered text = .ok (final, rest)) : holds final := by
  induction steps generalizing first gathered text with
  | zero => cases ran
  | succ steps ih =>
    -- Both places where a member is read go on in the same way.
    have onward : ∀ {text : List Char},
        (stringBody text >>= fun key => member gathered key.1 key.2 >>= fun next =>
          members member steps false next.1 next.2) = .ok (final, rest) → holds final := by
      intro text ran
      obtain ⟨⟨key, between⟩, -, ran⟩ := bind_ok ran
      obtain ⟨⟨next, behind⟩, isNext, ran⟩ := bind_ok ran
      exact ih (each _ _ _ _ _ start isNext) ran
    unfold members at ran
    split at ran
    · cases ran
    · obtain ⟨rfl, -⟩ := Prod.mk.inj (Except.ok.inj ran)
      exact start
    · split at ran
      · cases ran
      · exact onward ran
      · cases ran
      · cases ran
    · exact onward ran
    · cases ran
    · cases ran

/-- An object is read by reading its members with one level less. -/
theorem objectOf_ok {σ : Type} {wanted : String}
    {member : Nat → σ → String → List Char → Except Fault (σ × List Char)} {levels : Nat}
    {start final : σ} {text rest : List Char}
    (ran : objectOf wanted member start levels text = .ok (final, rest)) :
    ∃ lower steps body, levels = lower + 1 ∧
      members (member lower) steps true start body = .ok (final, rest) := by
  unfold objectOf at ran
  split at ran
  · split at ran
    · cases ran
    · next lower => exact ⟨lower, _, _, rfl, ran⟩
  · cases ran

/-- What storing a member keeps is kept by reading an object. -/
theorem objectOf_keep {σ : Type} {wanted : String}
    {member : Nat → σ → String → List Char → Except Fault (σ × List Char)} (holds : σ → Prop)
    (each : ∀ levels gathered key text next rest, holds gathered →
      member levels gathered key text = .ok (next, rest) → holds next) {levels : Nat}
    {first final : σ} {text rest : List Char} (start : holds first)
    (ran : objectOf wanted member first levels text = .ok (final, rest)) : holds final := by
  unfold objectOf at ran
  split at ran
  · split at ran
    · cases ran
    · next lower => exact members_keep holds (each lower) start ran
  · cases ran

/-! ## Values -/

theorem word_ok {α : Type} {content read : α} {letters text rest : List Char}
    (ran : word content letters text = .ok (read, rest)) : read = content := by
  induction letters generalizing text with
  | nil => exact (Prod.mk.inj (Except.ok.inj ran)).1.symm
  | cons letter letters ih =>
    cases text with
    | nil => cases ran
    | cons c text =>
      rw [word] at ran
      split at ran
      · exact ih ran
      · cases ran

/-- **What is read is regular throughout.** -/
theorem value_regular {levels : Nat} {text rest : List Char} {content : Json}
    (read : value levels text = .ok (content, rest)) : content.Every Regular := by
  induction levels using Nat.strongRecOn generalizing text rest content with
  | ind levels ih =>
    unfold value at read
    split at read
    · cases read
    · rw [word_ok read]; trivial
    · rw [word_ok read]; trivial
    · rw [word_ok read]; trivial
    · obtain ⟨⟨written, between⟩, isNumber, read⟩ := bind_ok read
      obtain ⟨rfl, -⟩ := Prod.mk.inj (Except.ok.inj read)
      exact numberBody_regular isNumber
    · obtain ⟨⟨written, between⟩, -, read⟩ := bind_ok read
      obtain ⟨rfl, -⟩ := Prod.mk.inj (Except.ok.inj read)
      trivial
    · split at read
      · cases read
      · next lower =>
        obtain ⟨⟨list, between⟩, areItems, read⟩ := bind_ok read
        obtain ⟨rfl, -⟩ := Prod.mk.inj (Except.ok.inj read)
        exact every_array.mpr ⟨trivial,
          items_all (fun text content rest => ih lower (Nat.lt_succ_self _)) areItems⟩
    · split at read
      · cases read
      · next lower =>
        obtain ⟨⟨stored, between⟩, areMembers, read⟩ := bind_ok read
        obtain ⟨rfl, -⟩ := Prod.mk.inj (Except.ok.inj read)
        refine every_object.mpr (members_keep (fun stored : Members =>
          stored.keys.Nodup ∧ ∀ member ∈ stored, Every Regular member.2) ?_ ?_ areMembers)
        · rintro gathered key text next rest ⟨distinct, inside⟩ ran
          obtain ⟨_, content, isValue, rfl⟩ := afterColon_ok (gathered.insert key) ran
          refine ⟨Members.nodup_insert distinct key content, fun member among => ?_⟩
          rcases Members.mem_insert among with among | rfl
          · exact inside member among
          · exact ih lower (Nat.lt_succ_self _) isValue
        · exact ⟨List.nodup_nil, fun member among => nomatch among⟩
    · split at read
      · obtain ⟨⟨written, between⟩, isNumber, read⟩ := bind_ok read
        obtain ⟨rfl, -⟩ := Prod.mk.inj (Except.ok.inj read)
        exact numberBody_regular isNumber
      · cases read

/-- **What is read is nested no deeper than the reader allows.** -/
theorem depth_le_of_value {levels : Nat} {text rest : List Char} {content : Json}
    (read : value levels text = .ok (content, rest)) : content.depth ≤ levels := by
  induction levels using Nat.strongRecOn generalizing text rest content with
  | ind levels ih =>
    unfold value at read
    split at read
    · cases read
    · rw [word_ok read]; exact Nat.zero_le _
    · rw [word_ok read]; exact Nat.zero_le _
    · rw [word_ok read]; exact Nat.zero_le _
    · obtain ⟨_, -, read⟩ := bind_ok read
      obtain ⟨rfl, -⟩ := Prod.mk.inj (Except.ok.inj read)
      exact Nat.zero_le _
    · obtain ⟨_, -, read⟩ := bind_ok read
      obtain ⟨rfl, -⟩ := Prod.mk.inj (Except.ok.inj read)
      exact Nat.zero_le _
    · split at read
      · cases read
      · next lower =>
        obtain ⟨⟨list, between⟩, areItems, read⟩ := bind_ok read
        obtain ⟨rfl, -⟩ := Prod.mk.inj (Except.ok.inj read)
        refine Nat.succ_le_succ (depthOfItems_le_iff.mpr ?_)
        exact items_all (fun text content rest => ih lower (Nat.lt_succ_self _)) areItems
    · split at read
      · cases read
      · next lower =>
        obtain ⟨⟨stored, between⟩, areMembers, read⟩ := bind_ok read
        obtain ⟨rfl, -⟩ := Prod.mk.inj (Except.ok.inj read)
        refine Nat.succ_le_succ (depthOfMembers_le_iff.mpr ?_)
        refine members_keep (fun stored : Members => ∀ member ∈ stored, member.2.depth ≤ lower)
          ?_ (List.forall_mem_nil _) areMembers
        intro gathered key text next rest shallow ran
        obtain ⟨_, content, isValue, rfl⟩ := afterColon_ok (gathered.insert key) ran
        intro member among
        rcases Members.mem_insert among with among | rfl
        · exact shallow member among
        · exact ih lower (Nat.lt_succ_self _) isValue
    · split at read
      · obtain ⟨_, -, read⟩ := bind_ok read
        obtain ⟨rfl, -⟩ := Prod.mk.inj (Except.ok.inj read)
        exact Nat.zero_le _
      · cases read

/-- What is read as a document is read by its reader. -/
theorem document_ok {α : Type} {reader : List Char → Except Fault (α × List Char)}
    {text : List Char} {tell : Fault → String} {read : α}
    (ran : (document reader text).mapError tell = .ok read) :
    ∃ rest, reader text = .ok (read, rest) := by
  unfold document at ran
  cases first : reader text with
  | error fault => simp [first, bind, Except.bind, Except.mapError] at ran
  | ok result =>
    obtain ⟨found, rest⟩ := result
    simp only [first, bind, Except.bind] at ran
    split at ran
    · obtain rfl : found = read := Except.ok.inj ran
      exact ⟨rest, rfl⟩
    · cases ran

/-- A document that has been read is regular throughout. -/
theorem parse_regular {text : String} {content : Json} (read : parse text = .ok content) :
    content.Every Regular := by
  obtain ⟨rest, ran⟩ := document_ok read
  exact value_regular ran

end PluginAudit.Json
