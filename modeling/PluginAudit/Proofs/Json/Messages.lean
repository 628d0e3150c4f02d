import PluginAudit.Json.Typed
import PluginAudit.Proofs.Json.Recognition
import PluginAudit.Proofs.Text.Lines

/-!
# Messages about documents

Whatever a document holds, what is said about a fault in it is in one line
(`told_value`, `told_skimValue`, `told_objectOf`): most causes are told in words
of their own, and where a message names what was found it puts a text in quotes
that hold no line break. A value without blanks is written in one line as well
(`oneLine_compact`).
-/

set_option autoImplicit false

namespace PluginAudit.Json

open Text

/-! ## Faults told in one line -/

/-- Whether a cause is told in words that are always the same. -/
@[simp] def Cause.isFixed : Cause → Bool
  | mismatch _ _ | missingField _ | duplicateField _ | refused _ => false
  | _ => true

theorem Cause.oneLine_message {cause : Cause} (fixed : cause.isFixed = true) :
    OneLine cause.message := by
  cases cause with
  | mismatch | missingField | duplicateField | refused => cases fixed
  | _ => decide

/-- Whatever is read, a fault is told in one line. -/
def Told {α : Type} (result : Except Fault α) : Prop :=
  ∀ fault, result = .error fault → OneLine fault.cause.message

section Told

variable {α β : Type}

@[simp] theorem told_ok (value : α) : Told (.ok value : Except Fault α) := nofun

@[simp] theorem told_pure (value : α) : Told (pure value : Except Fault α) := nofun

@[simp] theorem told_error {fault : Fault} :
    Told (.error fault : Except Fault α) ↔ OneLine fault.cause.message := by
  simp [Told]

/-- What is read in two steps is told in one line where each step is. -/
theorem Told.bind {first : Except Fault α} {next : α → Except Fault β} (start : Told first)
    (onward : ∀ value, Told (next value)) : Told (first >>= next) := by
  cases first with
  | error fault => exact told_error.mpr (told_error.mp start)
  | ok value => exact onward value

theorem told_ite {condition : Prop} [Decidable condition] {first second : Except Fault α}
    (isFirst : Told first) (isSecond : Told second) :
    Told (if condition then first else second) := by
  split
  · exact isFirst
  · exact isSecond

theorem told_fixed {fault : Fault} (fixed : fault.cause.isFixed = true) :
    Told (.error fault : Except Fault α) :=
  told_error.mpr (Cause.oneLine_message fixed)

end Told

/-! ## Scalars -/

theorem told_word {α : Type} (content : α) (letters text : List Char) :
    Told (word content letters text) := by
  induction letters generalizing text with
  | nil => exact told_ok _
  | cons letter letters ih =>
    cases text with
    | nil => exact told_fixed rfl
    | cons c text =>
      rw [word]
      split
      · exact ih text
      · exact told_fixed rfl

theorem fixed_hexFault (rest : List Char) : (hexFault rest).cause.isFixed = true := by
  rw [hexFault]
  split <;> rfl

theorem told_hexFault {α : Type} (rest : List Char) :
    Told (.error (hexFault rest) : Except Fault α) := told_fixed (fixed_hexFault rest)

theorem told_stringChars (text : List Char) : Told (stringChars text) := by
  -- A fault is that of what stands behind, that of an escape, or one in words of its own.
  fun_induction stringChars text with
  | case2 => exact told_ok _
  | case4 | case7 | case10 | case15 => exact told_hexFault _
  | case5 | case8 | case17 | case19 =>
    rename_i ih
    exact ih.bind fun _ => told_ok _
  | _ => exact told_fixed rfl

theorem told_stringBody (text : List Char) : Told (stringBody text) :=
  (told_stringChars text).bind fun _ => told_ok _

section Numbers

variable (negative : Bool) (digits : Nat) (exponent : Int) (text : List Char)

theorem told_double : Told (double negative digits exponent text) := by
  rw [double]
  split
  · exact told_fixed rfl
  · exact told_ok _

theorem told_exponentValue (below : Bool) :
    Told (exponentValue negative digits exponent below text) := by
  rw [exponentValue.eq_def]
  split
  · exact told_fixed rfl
  · split
    · exact told_fixed rfl
    · dsimp only
      split
      · split
        · exact told_fixed rfl
        · exact told_ok _
      · exact told_double _ _ _ _

theorem told_exponentPart : Told (exponentPart negative digits exponent text) := by
  rw [exponentPart.eq_def]
  split <;> exact told_exponentValue _ _ _ _ _

theorem told_afterDigits : Told (afterDigits negative digits exponent text) := by
  rw [afterDigits.eq_def]
  split
  · exact told_exponentPart _ _ _ _
  · exact told_exponentPart _ _ _ _
  · exact told_double _ _ _ _

theorem told_fractionPart : Told (fractionPart negative digits exponent text) := by
  rw [fractionPart]
  dsimp only
  split
  · split <;> exact told_fixed rfl
  · exact told_afterDigits _ _ _ _

theorem told_whole (dropped : List Char) : Told (whole negative digits dropped text) := by
  rw [whole]
  split
  · split
    · exact told_ok _
    · split
      · exact told_double _ _ _ _
      · exact told_ok _
  · exact told_double _ _ _ _

theorem told_numberBody : Told (numberBody negative text) := by
  rw [numberBody.eq_def]
  split
  · exact told_fixed rfl
  · split
    · exact told_fixed rfl
    · split
      · exact told_fixed rfl
      · dsimp only
        rw [afterInteger.eq_def]
        split
        · exact told_fractionPart _ _ _ _
        · exact told_exponentPart _ _ _ _
        · exact told_exponentPart _ _ _ _
        · exact told_whole _ _ _ _

end Numbers

/-! ## Lists and objects -/

theorem told_items {α : Type} {item : List Char → Except Fault (α × List Char)}
    (each : ∀ text, Told (item text)) (steps : Nat) (first : Bool) (text : List Char) :
    Told (items item steps first text) := by
  induction steps generalizing first text with
  | zero => exact told_fixed rfl
  | succ steps ih =>
    -- Both places where an item is read go on in the same way.
    have onward (text : List Char) :
        Told (item text >>= fun one => items item steps false one.2 >>= fun others =>
          (pure (one.1 :: others.1, others.2) : Except Fault (List α × List Char))) :=
      (each text).bind fun one => (ih false one.2).bind fun _ => told_pure _
    unfold items
    split
    · exact told_fixed rfl
    · exact told_ok _
    · split
      · exact told_fixed rfl
      · exact told_fixed rfl
      · exact onward _
    · exact onward _
    · exact told_fixed rfl

theorem told_members {σ : Type} {member : σ → String → List Char → Except Fault (σ × List Char)}
    (each : ∀ gathered key text, Told (member gathered key text)) (steps : Nat) (first : Bool)
    (gathered : σ) (text : List Char) : Told (members member steps first gathered text) := by
  induction steps generalizing first gathered text with
  | zero => exact told_fixed rfl
  | succ steps ih =>
    -- Both places where a member is read go on in the same way.
    have onward (text : List Char) :
        Told (stringBody text >>= fun key => member gathered key.1 key.2 >>= fun next =>
          members member steps false next.1 next.2) :=
      (told_stringBody text).bind fun key => (each gathered key.1 key.2).bind fun next =>
        ih false next.1 next.2
    unfold members
    split
    · exact told_fixed rfl
    · exact told_ok _
    · split
      · exact told_fixed rfl
      · exact onward _
      · exact told_fixed rfl
      · exact told_fixed rfl
    · exact onward _
    · exact told_fixed rfl
    · exact told_fixed rfl

theorem told_colon (text : List Char) : Told (colon text) := by
  rw [colon]
  split
  · exact told_fixed rfl
  · exact told_ok _
  · exact told_fixed rfl

/-! ## Values -/

theorem told_value (levels : Nat) (text : List Char) : Told (value levels text) := by
  induction levels using Nat.strongRecOn generalizing text with
  | ind levels ih =>
    unfold value
    split
    · exact told_fixed rfl
    · exact told_word _ _ _
    · exact told_word _ _ _
    · exact told_word _ _ _
    · exact (told_numberBody _ _).bind fun _ => told_pure _
    · exact (told_stringBody _).bind fun _ => told_pure _
    · split
      · exact told_fixed rfl
      · next lower =>
        exact (told_items (ih lower (Nat.lt_succ_self lower)) _ _ _).bind fun _ => told_pure _
    · split
      · exact told_fixed rfl
      · next lower =>
        refine (told_members ?_ _ _ _ _).bind fun _ => told_pure _
        intro gathered key text
        exact (told_colon text).bind fun text =>
          (ih lower (Nat.lt_succ_self lower) text).bind fun _ => told_pure _
    · split
      · exact (told_numberBody _ _).bind fun _ => told_pure _
      · exact told_fixed rfl

theorem told_document {α : Type} {reader : List Char → Except Fault (α × List Char)}
    (each : ∀ text, Told (reader text)) (text : List Char) : Told (document reader text) := by
  refine (each text).bind fun found => ?_
  dsimp only
  split
  · exact told_pure _
  · exact told_fixed rfl

/-! ## Numbers and texts in messages -/

theorem noBreak_toDigits {base : Nat} (proper : 1 < base) (small : base ≤ 16) (n : Nat) :
    '\n' ∉ Nat.toDigits base n := by
  have digit : ∀ d < 16, '\n' ∉ [Nat.digitChar d] := by decide
  induction n using Nat.strongRecOn with
  | ind n ih =>
    by_cases single : n < base
    · rw [Nat.toDigits_of_lt_base single]
      exact digit n (by omega)
    · rw [Nat.toDigits_of_base_le proper (by omega), List.mem_append, not_or]
      exact ⟨ih _ (Nat.div_lt_self (by omega) proper),
        digit _ (Nat.lt_of_lt_of_le (Nat.mod_lt n (by omega)) small)⟩

theorem noBreak_decimal (n : Nat) : '\n' ∉ Nat.toDigits 10 n :=
  noBreak_toDigits (by decide) (by decide) n

theorem oneLine_int (value : Int) : OneLine (toString value) := by
  cases value with
  | ofNat n => exact oneLine_toString n
  | negSucc n => exact oneLine_append.mpr ⟨by decide, oneLine_toString (n + 1)⟩

theorem noBreak_positional (size : Decimal.Size) : '\n' ∉ Decimal.positional size := by
  have digits : '\n' ∉ size.digitList := noBreak_decimal _
  have taken (count : Nat) : '\n' ∉ size.digitList.take count := mt List.mem_of_mem_take digits
  have dropped (count : Nat) : '\n' ∉ size.digitList.drop count := mt List.mem_of_mem_drop digits
  rw [Decimal.positional]
  split
  · simp [digits]
  · dsimp only
    split
    · simp [taken, dropped]
    · simp [digits]

theorem noBreak_exponential (size : Decimal.Size) : '\n' ∉ Decimal.exponential size := by
  have digits : '\n' ∉ size.digitList := noBreak_decimal _
  rw [Decimal.exponential]
  simp only [List.mem_append, List.mem_cons, not_or]
  refine ⟨?_, by decide, ?_, noBreak_decimal _⟩
  · split
    · next first second rest written =>
      rw [written] at digits
      simpa using digits
    · exact digits
  · split <;> decide

theorem noBreak_write (x : Binary64) : '\n' ∉ doubleLayout.write x := by
  have unsigned (size : Decimal.Size) : '\n' ∉ (if doubleLayout.isPositional size then
      Decimal.positional size else Decimal.exponential size) := by
    split
    · exact noBreak_positional size
    · exact noBreak_exponential size
  rw [Decimal.Layout.write]
  split
  · exact List.not_mem_cons_of_ne_of_not_mem (by decide) (unsigned _)
  · exact unsigned _

theorem noBreak_print (number : Number) : '\n' ∉ number.print := by
  cases number with
  | integer value =>
    rw [Number.print]
    split
    · exact List.not_mem_cons_of_ne_of_not_mem (by decide) (noBreak_decimal _)
    · exact noBreak_decimal _
  | double value => exact noBreak_write value

theorem oneLine_kind (number : Number) : OneLine number.kind := by
  cases number with
  | integer value =>
    change OneLine ("integer `" ++ toString value ++ "`")
    rw [oneLine_append, oneLine_append]
    exact ⟨⟨by decide, oneLine_int value⟩, by decide⟩
  | double value =>
    change OneLine ("floating point `" ++ String.ofList (doubleLayout.write value) ++ "`")
    rw [oneLine_append, oneLine_append]
    exact ⟨⟨by decide, oneLine_ofList.mpr (noBreak_write value)⟩, by decide⟩

/-- A text in quotes shows a line break by its escape. -/
theorem oneLine_quoted (text : String) : OneLine (Text.quoted text) := by
  have each (c : Char) : '\n' ∉ Text.quotedChar c := by
    rw [Text.quotedChar.eq_def]
    split
    case h_7 =>
      next _ _ noBreak _ _ _ =>
      split
      · simpa using Ne.symm noBreak
      · simp [noBreak_toDigits]
    all_goals decide
  rw [Text.quoted, oneLine_ofList]
  simp [each]

/-! ## Documents of a fixed shape -/

theorem oneLine_mismatch {found wanted : String} (isFound : OneLine found)
    (isWanted : OneLine wanted) : OneLine (Cause.mismatch found wanted).message := by
  change OneLine ("invalid type: " ++ found ++ ", expected " ++ wanted)
  rw [oneLine_append, oneLine_append, oneLine_append]
  exact ⟨⟨⟨by decide, isFound⟩, by decide⟩, isWanted⟩

theorem oneLine_mismatchAfter {α : Type} {kind : α → String} {wanted : String}
    {result : Except Fault (α × List Char)} (kinds : ∀ found, OneLine (kind found))
    (isWanted : OneLine wanted) (told : Told result) :
    OneLine (mismatchAfter kind wanted result).cause.message := by
  cases result with
  | error fault => exact told_error.mp told
  | ok found => exact oneLine_mismatch (kinds found.1) isWanted

/-- What was found in the place of something else is told in one line. -/
theorem told_mismatch {α : Type} {wanted : String} (isWanted : OneLine wanted) (text : List Char) :
    Told (.error (mismatch wanted text) : Except Fault α) := by
  rw [told_error]
  unfold mismatch
  split
  · exact Cause.oneLine_message rfl
  · exact oneLine_mismatchAfter (fun _ => by decide) isWanted (told_word _ _ _)
  · exact oneLine_mismatchAfter (fun _ => by decide) isWanted (told_word _ _ _)
  · exact oneLine_mismatchAfter (fun _ => by decide) isWanted (told_word _ _ _)
  · exact oneLine_mismatchAfter oneLine_kind isWanted (told_numberBody _ _)
  · refine oneLine_mismatchAfter ?_ isWanted (told_stringBody _)
    exact fun found => oneLine_append.mpr ⟨by decide, oneLine_quoted found⟩
  · exact oneLine_mismatch (by decide) isWanted
  · exact oneLine_mismatch (by decide) isWanted
  · split
    · exact oneLine_mismatchAfter oneLine_kind isWanted (told_numberBody _ _)
    · exact Cause.oneLine_message rfl

theorem told_stringValue (text : List Char) : Told (stringValue text) := by
  rw [stringValue]
  split
  · exact told_stringBody _
  · exact told_mismatch (by decide) _

theorem told_objectOf {σ : Type} {wanted : String} (isWanted : OneLine wanted)
    {member : Nat → σ → String → List Char → Except Fault (σ × List Char)}
    (each : ∀ levels gathered key text, Told (member levels gathered key text)) (start : σ)
    (levels : Nat) (text : List Char) : Told (objectOf wanted member start levels text) := by
  unfold objectOf
  split
  · split
    · exact told_fixed rfl
    · exact told_members (each _) _ _ _ _
  · exact told_mismatch isWanted _

/-! ## Values that are passed over -/

theorem told_skimString (text : List Char) : Told (skimString text) := by
  fun_induction skimString text with
  | case2 => exact told_ok _
  | case4 | case6 => exact told_hexFault _
  | case5 | case8 | case10 =>
    rename_i ih
    exact ih
  | _ => exact told_fixed rfl

theorem told_skimExponent (text : List Char) : Told (skimExponent text) :=
  told_ite (told_ok _) (told_fixed rfl)

theorem told_skimScale (text : List Char) : Told (skimScale text) := by
  rw [skimScale.eq_def]
  split
  · exact told_skimExponent _
  · exact told_skimExponent _
  · exact told_ok _

theorem told_skimNumber (text : List Char) : Told (skimNumber text) := by
  refine told_ite (told_fixed rfl) (told_ite (told_fixed rfl) ?_)
  split
  · exact told_ite (told_skimScale _) (told_fixed rfl)
  · exact told_skimScale _

theorem told_skimKey (text : List Char) : Told (skimKey text) := by
  rw [skimKey]
  split
  · exact told_fixed rfl
  · refine (told_skimString _).bind fun rest => ?_
    split
    · exact told_fixed rfl
    · exact told_ok _
    · exact told_fixed rfl
  · exact told_fixed rfl

theorem told_enter (text : List Char) (frame : Frame) : Told (frame.enter text) := by
  cases frame with
  | list => exact told_ok _
  | object => exact told_skimKey text

theorem told_skim (fuel : Nat) (stage : Stage) (frames : List Frame) (text : List Char) :
    Told (skim fuel stage frames text) := by
  -- Each step reads something, and then the run goes on; where it stops, the words are its own.
  fun_induction skim fuel stage frames text with
  | case3 | case4 | case15 | case16 =>
    rename_i ih
    exact ih
  | case5 | case6 | case7 =>
    rename_i ih
    exact (told_word _ _ _).bind fun passed => ih passed.2
  | case8 | case10 =>
    rename_i ih
    exact (told_skimNumber _).bind ih
  | case9 =>
    rename_i ih
    exact (told_skimString _).bind ih
  | case12 => exact told_ok _
  | case17 | case18 =>
    rename_i ih
    exact (told_enter _ _).bind ih
  | _ => exact told_fixed rfl

theorem told_skimValue (text : List Char) : Told (skimValue text) := told_skim _ _ _ _

/-! ## Messages and values in one line -/

/-- What is said about a fault, with its place, is in one line. -/
theorem oneLine_faultMessage {fault : Fault} (told : OneLine fault.cause.message)
    (text : List Char) : OneLine (fault.message text) := by
  simp only [Fault.message, oneLine_append, oneLine_toString, told]
  decide

/-- Why a text is refused is told in one line, where every fault of the reader is. -/
theorem oneLine_refusal {α : Type} {reader : List Char → Except Fault (α × List Char)}
    (each : ∀ text, Told (reader text)) {text : List Char} {reason : String}
    (refused : (document reader text).mapError (Fault.message text) = .error reason) :
    OneLine reason := by
  have told := told_document each text
  cases read : document reader text with
  | ok content =>
    rw [read] at refused
    cases refused
  | error fault =>
    rw [read] at told refused
    obtain rfl := Except.error.inj refused
    exact oneLine_faultMessage (told_error.mp told) _

/-- **Why a text is no value is told in one line.** -/
theorem oneLine_parse {text reason : String} (refused : parse text = .error reason) :
    OneLine reason :=
  oneLine_refusal (told_value openLimit) refused

/-! ## Values without blanks -/

theorem noBreak_escape (c : Char) : '\n' ∉ escape c := by
  have digit : ∀ n < 16, '\n' ∉ [hexDigit n] := by decide
  rw [escape.eq_def]
  split
  case h_8 =>
    next _ _ _ _ noBreak _ _ =>
    split
    · next control =>
      have first := digit (c.toNat / 16) (by omega)
      have second := digit (c.toNat % 16) (by omega)
      simp only [List.mem_singleton] at first second
      simp [first, second]
    · simpa using Ne.symm noBreak
  all_goals decide

theorem noBreak_quoted (text : String) : '\n' ∉ quoted text := by
  simp [quoted, noBreak_escape]

mutual

theorem noBreak_compactChars : ∀ value : Json, '\n' ∉ compactChars value
  | .null => by decide
  | .bool true => by decide
  | .bool false => by decide
  | .number value => noBreak_print value
  | .string text => noBreak_quoted text
  | .array [] => by decide
  | .array (item :: items) => by
    simp [compactChars, noBreak_compactChars item, noBreak_compactItems items]
  | .object [] => by decide
  | .object ((key, value) :: members) => by
    simp [compactChars, noBreak_quoted key, noBreak_compactChars value,
      noBreak_compactMembers members]

theorem noBreak_compactItems : ∀ items : List Json, '\n' ∉ compactItems items
  | [] => by decide
  | item :: items => by
    simp [compactItems, noBreak_compactChars item, noBreak_compactItems items]

theorem noBreak_compactMembers : ∀ members : Members, '\n' ∉ compactMembers members
  | [] => by decide
  | (key, value) :: members => by
    simp [compactMembers, noBreak_quoted key, noBreak_compactChars value,
      noBreak_compactMembers members]

end

/-- **A value without blanks is written in one line,** whatever texts are in it. -/
theorem oneLine_compact (value : Json) : OneLine value.compact :=
  oneLine_ofList.mpr (noBreak_compactChars value)

end PluginAudit.Json
