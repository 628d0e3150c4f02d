import Mathlib.Data.List.DropRight
import PluginAudit.Json.Skim
import PluginAudit.Proofs.Json.Grammar
import PluginAudit.Proofs.Json.Reading

/-!
# What is read is JSON

The readers are told against the grammar. What is read as a string stands for the
code units of its text (`stringBody_ok`). What is skimmed is a value of some
outline (`skimValue_ok`): the lists and objects that are open say what the text
behind a value still has to bring (`Closes`), and a run that goes through brings
it. An object whose members are read in place is an object of the grammar, member
by member (`objectOf_written`).
-/

set_option autoImplicit false

namespace PluginAudit.Json

open Grammar

/-! ## Strings -/

theorem toNat_ofNat {n : Nat} (valid : n.isValidChar) : (Char.ofNat n).toNat = n := by
  rw [Char.ofNat, dif_pos valid]
  rfl

/-- A code unit that is no surrogate is that of its character. -/
theorem units_ofNat {unit : Nat} (noSurrogate : unit < 0xD800 ∨ 0xDFFF < unit)
    (short : unit < 0x10000) : units (Char.ofNat unit) = [unit] := by
  have valid : unit.isValidChar := by
    unfold Nat.isValidChar
    omega
  rw [units, toNat_ofNat valid, if_pos short]

/-- A leading and a trailing surrogate are those of the character that they make together. -/
theorem units_ofPair {lead trail : Nat} (leads : 0xD800 ≤ lead ∧ lead < 0xDC00)
    (trails : 0xDC00 ≤ trail ∧ trail ≤ 0xDFFF) :
    units (Char.ofNat ((lead - 0xD800) * 0x400 + (trail - 0xDC00) + 0x10000)) = [lead, trail] := by
  have valid : ((lead - 0xD800) * 0x400 + (trail - 0xDC00) + 0x10000).isValidChar := by
    unfold Nat.isValidChar
    omega
  have high : 0xD800 + ((lead - 0xD800) * 0x400 + (trail - 0xDC00)) / 0x400 = lead := by omega
  have low : 0xDC00 + ((lead - 0xD800) * 0x400 + (trail - 0xDC00)) % 0x400 = trail := by omega
  rw [units, toNat_ofNat valid, if_neg (by omega), Nat.add_sub_cancel, high, low]

theorem hexValue?_lt {c : Char} {value : Nat} (standsFor : hexValue? c = some value) :
    value < 16 := by
  -- A range of digits is told by its ends and the value of its first digit.
  have below : ∀ (first last : Char) (base : Nat), last.toNat - first.toNat + base < 16 →
      first ≤ c ∧ c ≤ last → some (c.toNat - first.toNat + base) = some value → value < 16 := by
    intro first last base few inside same
    have atMost : c.toNat ≤ last.toNat := inside.2
    have isValue := Option.some.inj same
    omega
  unfold hexValue? at standsFor
  split at standsFor
  · next digit => exact below '0' '9' 0 (by decide) digit standsFor
  · split at standsFor
    · next lower => exact below 'a' 'f' 10 (by decide) lower standsFor
    · split at standsFor
      · next upper => exact below 'A' 'F' 10 (by decide) upper standsFor
      · cases standsFor

theorem fourHex?_lt {a b c d : Char} {unit : Nat} (standsFor : fourHex? a b c d = some unit) :
    unit < 0x10000 := by
  simp only [fourHex?, bind, Option.bind_eq_some_iff, pure, Option.some.injEq] at standsFor
  obtain ⟨first, isFirst, second, isSecond, third, isThird, fourth, isFourth, rfl⟩ := standsFor
  have := hexValue?_lt isFirst
  have := hexValue?_lt isSecond
  have := hexValue?_lt isThird
  have := hexValue?_lt isFourth
  omega

/-- What is read in front of the other characters of a string. -/
theorem consChar_ok {c : Char} {more : Except Fault (List Char × List Char)}
    {chars rest : List Char}
    (ran : (more >>= fun read => (pure (c :: read.1, read.2) : Except Fault _)) =
      .ok (chars, rest)) :
    ∃ others, more = .ok (others, rest) ∧ chars = c :: others := by
  obtain ⟨⟨others, left⟩, read, ran⟩ := bind_ok ran
  obtain ⟨rfl, rfl⟩ := Prod.mk.inj (Except.ok.inj ran)
  exact ⟨others, read, rfl⟩

/-- The characters that are read stand for the code units of what they are read as. -/
theorem stringChars_ok {text chars rest : List Char}
    (ran : stringChars text = .ok (chars, rest)) : Characters text (unitsOfChars chars) rest := by
  fun_induction stringChars text generalizing chars rest with
  | case2 =>
    obtain ⟨rfl, rfl⟩ := Prod.mk.inj (Except.ok.inj ran)
    exact .close
  | case5 a b c d text unit standsFor noSurrogate ih =>
    obtain ⟨others, read, rfl⟩ := consChar_ok ran
    rw [unitsOfChars_cons, units_ofNat noSurrogate (fourHex?_lt standsFor)]
    exact .unit standsFor (ih read)
  | case8 a b c d lead isLead surrogate noTrail e f g h text trail isTrail trails ih =>
    obtain ⟨others, read, rfl⟩ := consChar_ok ran
    rw [unitsOfChars_cons, units_ofPair (by omega) trails]
    exact .unit isLead (.unit isTrail (ih read))
  | case17 c text _ _ d standsFor ih =>
    obtain ⟨others, read, rfl⟩ := consChar_ok ran
    exact .escape standsFor (ih read)
  | case19 c text noQuote noEnd _ _ noEscape noControl ih =>
    obtain ⟨others, read, rfl⟩ := consChar_ok ran
    refine .plain noQuote ?_ (Nat.le_of_not_lt noControl) (ih read)
    rintro rfl
    cases text with
    | nil => exact noEnd rfl rfl
    | cons c text => exact noEscape c text rfl rfl
  | _ => cases ran

/-- **What is read as a string stands for the code units of its text.** -/
theorem stringBody_ok {text rest : List Char} {read : String}
    (ran : stringBody text = .ok (read, rest)) : Characters text (unitsOf read) rest := by
  obtain ⟨⟨chars, left⟩, isString, ran⟩ := bind_ok ran
  obtain ⟨rfl, rfl⟩ := Prod.mk.inj (Except.ok.inj ran)
  rw [unitsOf_ofList]
  exact stringChars_ok isString

/-- What is skimmed as a string is one, whatever it stands for. -/
theorem skimString_ok {text rest : List Char} (ran : skimString text = .ok rest) :
    ∃ units, Characters text units rest := by
  fun_induction skimString text generalizing rest with
  | case2 =>
    obtain rfl := Except.ok.inj ran
    exact ⟨[], .close⟩
  | case5 a b c d text unit standsFor ih =>
    obtain ⟨units, chars⟩ := ih ran
    exact ⟨_, .unit standsFor chars⟩
  | case8 c text _ _ d standsFor ih =>
    obtain ⟨units, chars⟩ := ih ran
    exact ⟨_, .escape standsFor chars⟩
  | case10 c text noQuote noEnd _ _ noEscape noControl ih =>
    obtain ⟨units, chars⟩ := ih ran
    refine ⟨_, .plain noQuote ?_ (Nat.le_of_not_lt noControl) chars⟩
    rintro rfl
    cases text with
    | nil => exact noEnd rfl rfl
    | cons c text => exact noEscape c text rfl rfl
  | _ => cases ran

/-! ## Numbers and words -/

/-- A text that starts with a digit starts with digits, behind which no digit follows. -/
theorem isDigits_takeWhile {text : List Char} (starts : text.head?.any Char.isDigit = true) :
    IsDigits (text.takeWhile Char.isDigit) := by
  refine ⟨?_, List.all_eq_true.mp List.all_takeWhile⟩
  cases text with
  | nil => cases starts
  | cons c text =>
    have isDigit : c.isDigit = true := starts
    rw [List.takeWhile_cons_of_pos isDigit]
    exact List.cons_ne_nil _ _

theorem skimExponent_ok {text rest : List Char} (ran : skimExponent text = .ok rest) :
    ∃ sign digits, text = sign ++ digits ++ rest ∧ sign ∈ [[], ['+'], ['-']] ∧ IsDigits digits := by
  -- The digits are the same whether a sign stands before them or not.
  have behind : ∀ {text : List Char}, (if text.head?.any Char.isDigit = true
        then Except.ok (text.dropWhile Char.isDigit)
        else (.error (.within .invalidNumber text) : Except Fault (List Char))) = .ok rest →
      ∃ digits, text = digits ++ rest ∧ IsDigits digits := by
    intro text ran
    split at ran
    · next starts =>
      obtain rfl := Except.ok.inj ran
      exact ⟨_, List.takeWhile_append_dropWhile.symm, isDigits_takeWhile starts⟩
    · cases ran
  unfold skimExponent at ran
  dsimp only at ran
  split at ran
  · obtain ⟨digits, rfl, areDigits⟩ := behind ran
    exact ⟨['+'], digits, rfl, by simp, areDigits⟩
  · obtain ⟨digits, rfl, areDigits⟩ := behind ran
    exact ⟨['-'], digits, rfl, by simp, areDigits⟩
  · obtain ⟨digits, rfl, areDigits⟩ := behind ran
    exact ⟨[], digits, rfl, by simp, areDigits⟩

theorem skimScale_ok {text rest : List Char} (ran : skimScale text = .ok rest) :
    ∃ exponent, text = exponent ++ rest ∧ IsExponent exponent := by
  unfold skimScale at ran
  split at ran
  · obtain ⟨sign, digits, rfl, isSign, areDigits⟩ := skimExponent_ok ran
    exact ⟨_, rfl, .digits (by simp) isSign areDigits⟩
  · obtain ⟨sign, digits, rfl, isSign, areDigits⟩ := skimExponent_ok ran
    exact ⟨_, rfl, .digits (by simp) isSign areDigits⟩
  · obtain rfl := Except.ok.inj ran
    exact ⟨[], rfl, .absent⟩

/-- What is skimmed as a number behind its sign is one. -/
theorem skimNumber_ok {text rest : List Char} (sign : List Char) (isSign : sign ∈ [[], ['-']])
    (ran : skimNumber text = .ok rest) :
    ∃ number, sign ++ text = number ++ rest ∧ IsNumber number := by
  unfold skimNumber at ran
  dsimp only at ran
  split at ran
  · cases ran
  next starts =>
  split at ran
  · cases ran
  next noZero =>
  have starts : text.head?.any Char.isDigit = true := by simpa using starts
  have single : (text.takeWhile Char.isDigit).head? = some '0' →
      text.takeWhile Char.isDigit = ['0'] := by
    intro zero
    obtain ⟨text, rfl⟩ : ∃ more, text = '0' :: more := by
      cases text with
      | nil => cases starts
      | cons c text =>
        have isDigit : c.isDigit = true := starts
        rw [List.takeWhile_cons_of_pos isDigit] at zero
        exact ⟨text, by rw [Option.some.inj zero]⟩
    have stops : ¬ (text.head?.any Char.isDigit = true) := fun more => noZero ⟨rfl, more⟩
    rw [List.takeWhile_cons_of_pos rfl]
    cases text with
    | nil => rfl
    | cons d text => rw [List.takeWhile_cons_of_neg (p := Char.isDigit) stops]
  have areDigits := isDigits_takeWhile starts
  have whole : text.takeWhile Char.isDigit ++ text.dropWhile Char.isDigit = text :=
    List.takeWhile_append_dropWhile
  rw [← whole]
  split at ran
  · next more isPoint =>
    split at ran
    · next starts' =>
      obtain ⟨exponent, left, isExponent⟩ := skimScale_ok ran
      have digits : more.takeWhile Char.isDigit ++ (exponent ++ rest) = more := by
        rw [← left, List.takeWhile_append_dropWhile]
      refine ⟨_, ?_,
        .parts isSign areDigits single (.digits (isDigits_takeWhile starts')) isExponent⟩
      rw [isPoint, ← digits]
      simp [digits]
    · cases ran
  · obtain ⟨exponent, left, isExponent⟩ := skimScale_ok ran
    refine ⟨_, ?_, .parts isSign areDigits single .absent isExponent⟩
    rw [left]
    simp

/-- The letters of a word are passed one by one. -/
theorem word_written {α : Type} {content read : α} {letters text rest : List Char}
    (ran : word content letters text = .ok (read, rest)) : text = letters ++ rest := by
  induction letters generalizing text with
  | nil => exact (Prod.mk.inj (Except.ok.inj ran)).2
  | cons letter letters ih =>
    cases text with
    | nil => cases ran
    | cons c text =>
      rw [word] at ran
      split at ran
      · next same => rw [ih ran, same, List.cons_append]
      · cases ran

/-! ## Skimming -/

theorem colon_ok {text rest : List Char} (ran : colon text = .ok rest) : Token ':' text rest := by
  unfold colon at ran
  split at ran
  · cases ran
  · next next =>
    obtain rfl := Except.ok.inj ran
    exact token_of_skipBlanks next
  · cases ran

theorem skimKey_ok {text rest : List Char} (ran : skimKey text = .ok rest) :
    ∃ key, Key text key rest := by
  unfold skimKey at ran
  split at ran
  · cases ran
  · next body opens =>
    obtain ⟨behind, isString, ran⟩ := bind_ok ran
    obtain ⟨key, chars⟩ := skimString_ok isString
    split at ran
    · cases ran
    · next next =>
      obtain rfl := Except.ok.inj ran
      exact ⟨key, body, behind, token_of_skipBlanks opens, chars, token_of_skipBlanks next⟩
    · cases ran
  · cases ran

theorem skimKey_skipBlanks (text : List Char) : skimKey (skipBlanks text) = skimKey text := by
  have again : skipBlanks (skipBlanks text) = skipBlanks text := List.dropWhile_idempotent _ _
  rw [skimKey, again, skimKey]

/-- A text brings what follows a value: the rest of every list and object that is open, the
innermost first. -/
def Closes : List Frame → List Char → List Char → Prop
  | [], text, rest => text = rest
  | .list :: frames, text, rest =>
    ∃ items between, MoreItems text items between ∧ Closes frames between rest
  | .object :: frames, text, rest =>
    ∃ members between, MoreMembers text members between ∧ Closes frames between rest

/-- A text brings the whole inside of a list or object that has just been opened. -/
def Fills (text rest : List Char) : Frame → Prop
  | .list => ∃ items, Items text items rest
  | .object => ∃ members, Grammar.Members text members rest

/-- What a run brings that starts at a stage. -/
def Brings (text rest : List Char) : Stage → List Frame → Prop
  | .value, frames => ∃ outline between, Value text outline between ∧ Closes frames between rest
  | .opened, frame :: frames => ∃ between, Fills text between frame ∧ Closes frames between rest
  | .opened, [] => True
  | .closed, frames => Closes frames text rest

/-- A value of an outline, with what follows it. -/
theorem brings_value {text between rest : List Char} {frames : List Frame} {outline : Outline}
    (value : Value (skipBlanks text) outline between) (closes : Closes frames between rest) :
    Brings text rest .value frames :=
  ⟨outline, between, value.of_skipBlanks, closes⟩

/-- A run that enters an open list or object behind its bracket brings the whole inside of it. -/
theorem fills_of_enter {frame : Frame} {frames : List Frame} {text behind rest : List Char}
    (entered : frame.enter (skipBlanks text) = .ok behind)
    (brings : Brings behind rest .value (frame :: frames)) :
    ∃ between, Fills text between frame ∧ Closes frames between rest := by
  obtain ⟨outline, between, value, closes⟩ := brings
  cases frame with
  | list =>
    obtain rfl := Except.ok.inj entered
    obtain ⟨items, after, others, closes⟩ := closes
    exact ⟨after, ⟨_, .some value.of_skipBlanks others⟩, closes⟩
  | object =>
    obtain ⟨key, isKey⟩ := skimKey_ok ((skimKey_skipBlanks text).symm.trans entered)
    obtain ⟨members, after, others, closes⟩ := closes
    exact ⟨after, ⟨_, .some isKey value others⟩, closes⟩

/-- A run that enters an open list or object behind a comma brings the rest of it. -/
theorem closes_of_enter {frame : Frame} {frames : List Frame} {text start behind rest : List Char}
    (comma : Token ',' text start) (entered : frame.enter start = .ok behind)
    (brings : Brings behind rest .value (frame :: frames)) :
    Closes (frame :: frames) text rest := by
  obtain ⟨outline, between, value, closes⟩ := brings
  cases frame with
  | list =>
    obtain rfl := Except.ok.inj entered
    obtain ⟨items, after, others, closes⟩ := closes
    exact ⟨_, after, .next comma value others, closes⟩
  | object =>
    obtain ⟨key, isKey⟩ := skimKey_ok entered
    obtain ⟨members, after, others, closes⟩ := closes
    exact ⟨_, after, .next comma isKey value others, closes⟩

/-- A word that is passed is a value. -/
theorem brings_word {text more rest : List Char} {first : Char} {letters : List Char}
    {frames : List Frame} {next : List Char → Except Fault (List Char)}
    (starts : skipBlanks text = first :: more) (word : String)
    (isWord : word ∈ ["null", "true", "false"]) (spelled : word.toList = first :: letters)
    (ran : (Json.word () letters more >>= fun read => next read.2) = .ok rest)
    (closes : ∀ {behind}, next behind = .ok rest → Closes frames behind rest) :
    Brings text rest .value frames := by
  obtain ⟨⟨_, behind⟩, passed, ran⟩ := bind_ok ran
  have value : Value (skipBlanks text) .word behind := by
    rw [starts, word_written passed, ← List.cons_append, ← spelled]
    exact .word isWord
  exact brings_value value (closes ran)

/-- A number that is passed, behind its sign, is a value. -/
theorem brings_number {text body rest : List Char} {frames : List Frame}
    {next : List Char → Except Fault (List Char)} (sign : List Char) (isSign : sign ∈ [[], ['-']])
    (starts : skipBlanks text = sign ++ body) (ran : (skimNumber body >>= next) = .ok rest)
    (closes : ∀ {behind}, next behind = .ok rest → Closes frames behind rest) :
    Brings text rest .value frames := by
  obtain ⟨behind, passed, ran⟩ := bind_ok ran
  obtain ⟨number, split, isNumber⟩ := skimNumber_ok sign isSign passed
  have value : Value (skipBlanks text) .number behind := by
    rw [starts, split]
    exact .number isNumber
  exact brings_value value (closes ran)

/-- **What is skimmed brings what its stage asks for.** -/
theorem skim_brings {fuel : Nat} {stage : Stage} {frames : List Frame} {text rest : List Char}
    (ran : skim fuel stage frames text = .ok rest) : Brings text rest stage frames := by
  induction fuel generalizing stage frames text with
  | zero => cases ran
  | succ fuel ih =>
    have closes : ∀ {frames : List Frame} {behind : List Char},
        skim fuel .closed frames behind = .ok rest → Closes frames behind rest := fun ran => ih ran
    cases stage with
    | value =>
      unfold skim at ran
      dsimp only at ran
      split at ran
      · cases ran
      · next starts =>
        obtain ⟨between, ⟨items, inside⟩, closes⟩ := ih ran
        have value : Value (skipBlanks text) (.list items) between := starts ▸ .list inside
        exact brings_value value closes
      · next starts =>
        obtain ⟨between, ⟨members, inside⟩, closes⟩ := ih ran
        have value : Value (skipBlanks text) (.object members) between := starts ▸ .object inside
        exact brings_value value closes
      · next starts => exact brings_word starts "null" (by simp) rfl ran closes
      · next starts => exact brings_word starts "true" (by simp) rfl ran closes
      · next starts => exact brings_word starts "false" (by simp) rfl ran closes
      · next starts => exact brings_number ['-'] (by simp) starts ran closes
      · next starts =>
        obtain ⟨behind, passed, ran⟩ := bind_ok ran
        obtain ⟨units, chars⟩ := skimString_ok passed
        have value : Value (skipBlanks text) (.string units) behind := starts ▸ .string chars
        exact brings_value value (closes ran)
      · next starts =>
        split at ran
        · exact brings_number [] (by simp) starts ran closes
        · cases ran
    | opened =>
      cases frames with
      | nil => trivial
      | cons frame frames =>
        unfold skim at ran
        split at ran
        · cases ran
        · cases ran
        · next close => exact ⟨_, ⟨[], .none (token_of_skipBlanks close)⟩, ih ran⟩
        · next close => exact ⟨_, ⟨[], .none (token_of_skipBlanks close)⟩, ih ran⟩
        · next starts _ _ =>
          obtain ⟨behind, entered, ran⟩ := bind_ok ran
          exact fills_of_enter (starts ▸ entered) (ih ran)
    | closed =>
      cases frames with
      | nil =>
        unfold skim at ran
        exact Except.ok.inj ran
      | cons frame frames =>
        unfold skim at ran
        split at ran
        · cases ran
        · cases ran
        · next close => exact ⟨[], _, .close (token_of_skipBlanks close), ih ran⟩
        · next close => exact ⟨[], _, .close (token_of_skipBlanks close), ih ran⟩
        · next frame c more starts _ _ =>
          rw [if_neg (by decide)] at ran
          split at ran
          · next isComma =>
            obtain ⟨behind, entered, ran⟩ := bind_ok ran
            exact closes_of_enter (token_of_skipBlanks (isComma ▸ starts)) entered (ih ran)
          · split at ran <;> cases ran

/-- **What is skimmed is a value of some outline.** -/
theorem skimValue_ok {text rest : List Char} (ran : skimValue text = .ok rest) :
    ∃ outline, Value text outline rest := by
  obtain ⟨outline, between, value, rfl⟩ := skim_brings ran
  exact ⟨outline, value⟩

/-! ## Objects that are read in place -/

section Objects

variable {σ : Type}

/-- Members are stored one after the other. `stores` says what becomes of what has been gathered
when a value of an outline is stored under a key. -/
inductive Gathers (stores : σ → String → Outline → σ → Prop) :
    σ → List (String × Outline) → σ → Prop where
  | nil {gathered : σ} : Gathers stores gathered [] gathered
  | cons {gathered next final : σ} {key : String} {value : Outline}
      {others : List (String × Outline)} (first : stores gathered key value next)
      (rest : Gathers stores next others final) :
      Gathers stores gathered ((key, value) :: others) final

/-- Members as they are written. -/
def writtenMembers (members : List (String × Outline)) : List (List Nat × Outline) :=
  members.map fun member => (unitsOf member.1, member.2)

/-- A reader of members reads a value behind a colon and stores it. -/
def StoresMember (stores : σ → String → Outline → σ → Prop)
    (member : σ → String → List Char → Except Fault (σ × List Char)) : Prop :=
  ∀ gathered key text next rest, member gathered key text = .ok (next, rest) →
    ∃ behind value, Token ':' text behind ∧ Value behind value rest ∧ stores gathered key value next

variable {stores : σ → String → Outline → σ → Prop}
  {member : σ → String → List Char → Except Fault (σ × List Char)}

/-- A text brings the members of an object, from its opening brace on or from behind a member. -/
def MembersFrom : Bool → List Char → List (List Nat × Outline) → List Char → Prop
  | true => Grammar.Members
  | false => MoreMembers

/-- The members that are read are those of an object, or what is left of them, and are stored in
their order. -/
theorem members_written (storesMember : StoresMember stores member) {steps : Nat} {first : Bool}
    {gathered final : σ} {text rest : List Char}
    (ran : members member steps first gathered text = .ok (final, rest)) :
    ∃ list, Gathers stores gathered list final ∧
      MembersFrom first text (writtenMembers list) rest := by
  induction steps generalizing first gathered text with
  | zero => cases ran
  | succ steps ih =>
    have ends : ∀ {behind}, Token '}' text behind → MembersFrom first text [] behind := by
      cases first with
      | false => exact .close
      | true => exact .none
    -- Both places where a member is read go on in the same way.
    have onward : ∀ {start body : List Char}, skipBlanks start = '"' :: body →
        (∀ {key behind value between more}, Key start key behind → Value behind value between →
          MoreMembers between more rest → MembersFrom first text ((key, value) :: more) rest) →
        (stringBody body >>= fun key => member gathered key.1 key.2 >>= fun next =>
          members member steps false next.1 next.2) = .ok (final, rest) →
        ∃ list, Gathers stores gathered list final ∧
          MembersFrom first text (writtenMembers list) rest := by
      intro start body quote brings ran
      obtain ⟨⟨key, after⟩, isKey, ran⟩ := bind_ok ran
      obtain ⟨⟨next, between⟩, isMember, ran⟩ := bind_ok ran
      obtain ⟨behind, value, isColon, isValue, stored⟩ := storesMember _ _ _ _ _ isMember
      obtain ⟨others, gathers, more⟩ := ih ran
      exact ⟨(key, value) :: others, .cons stored gathers,
        brings ⟨body, after, token_of_skipBlanks quote, stringBody_ok isKey, isColon⟩ isValue more⟩
    unfold members at ran
    split at ran
    · cases ran
    · next close =>
      obtain ⟨rfl, rfl⟩ := Prod.mk.inj (Except.ok.inj ran)
      exact ⟨[], .nil, ends (token_of_skipBlanks close)⟩
    · next isComma =>
      split at ran
      · cases ran
      · next isQuote => exact onward isQuote (.next (token_of_skipBlanks isComma)) ran
      · cases ran
      · cases ran
    · next isQuote => exact onward isQuote .some ran
    · cases ran
    · cases ran

/-- **An object that is read in place is one,** and its members are stored in their order. -/
theorem objectOf_written {wanted : String}
    {member : Nat → σ → String → List Char → Except Fault (σ × List Char)}
    (storesMember : ∀ levels, StoresMember stores (member levels)) {levels : Nat} {start final : σ}
    {text rest : List Char} (ran : objectOf wanted member start levels text = .ok (final, rest)) :
    ∃ list, Gathers stores start list final ∧
      Value text (.object (writtenMembers list)) rest := by
  unfold objectOf at ran
  split at ran
  · next starts =>
    split at ran
    · cases ran
    · next lower =>
      obtain ⟨list, gathers, inside⟩ := members_written (storesMember lower) ran
      exact ⟨list, gathers, .of_token (token_of_skipBlanks starts) (.object inside)⟩
  · cases ran

/-- A string that is read is a value. -/
theorem stringValue_written {text rest : List Char} {read : String}
    (ran : stringValue text = .ok (read, rest)) : Value text (.string (unitsOf read)) rest := by
  unfold stringValue at ran
  split at ran
  · next starts => exact .of_token (token_of_skipBlanks starts) (.string (stringBody_ok ran))
  · cases ran

end Objects

/-- A document that is read is one value, if its reader reads values. -/
theorem document_written {α : Type} {reader : List Char → Except Fault (α × List Char)}
    {holds : α → Outline → Prop}
    (reads : ∀ text read rest, reader text = .ok (read, rest) →
      ∃ outline, Value text outline rest ∧ holds read outline)
    {text : String} {read : α} (ran : document reader text.toList = .ok read) :
    ∃ outline, Written text outline ∧ holds read outline := by
  obtain ⟨⟨found, rest⟩, isRead, ran⟩ := bind_ok ran
  dsimp only at ran
  split at ran
  · next ends =>
    obtain rfl := Except.ok.inj ran
    obtain ⟨outline, value, holds⟩ := reads _ _ _ isRead
    exact ⟨outline, ⟨rest, value, List.dropWhile_eq_nil_iff.mp ends⟩, holds⟩
  · cases ran

end PluginAudit.Json
