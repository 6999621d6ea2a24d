/-
Reading printed JSON back.

The text of a value takes the reading machine from where a value may stand to
where this value has been read, whatever is open around it
(`Exact.reads`, by induction on the value). A number is the one thing whose end
shows in the next character only; `Reader.Holds` covers both ways in which a value
can have been read.

Doubles are left out: their digits are rounded on the way back. An object comes
back as it was when no key of it stands twice.
-/
import SqlAdapter.Json.Printer
import SqlAdapter.Json.Reader
import SqlAdapter.Proofs.Digits
import Mathlib.Data.List.Basic
import Mathlib.Data.List.TakeWhile

namespace SqlAdapter

namespace Json

/-! ## Numbers -/

theorem head?_decimalChars {n : Nat} (h : (decimalChars n).head? = some '0') : n = 0 := by
  induction n using Nat.strongRecOn with
  | _ n ih =>
    by_cases hn : n < 10
    · have hzero : ∀ d, d < 10 → digitChar d = '0' → d = 0 := by decide
      rw [decimalChars_lt hn, List.head?_cons] at h
      exact hzero n hn (Option.some.inj h)
    · rw [decimalChars_ge hn, List.head?_append_of_ne_nil _ (decimalChars_ne_nil _)] at h
      have hrec := ih (n / 10) (by omega) h
      omega

theorem decimalChars_noLeadingZero (n : Nat) :
    ¬ (decimalChars n = [] ∨ ((decimalChars n).head? = some '0' ∧ (decimalChars n).length ≠ 1)) := by
  rintro (hnil | ⟨hzero, hlength⟩)
  · exact decimalChars_ne_nil n hnil
  · rw [head?_decimalChars hzero, decimalChars_lt (by decide)] at hlength
    exact hlength rfl

theorem ne_minus_of_isDigit {c : Char} (h : isDigit c = true) : c ≠ '-' := by
  rintro rfl
  revert h
  decide

/-- An integer is read from its digits. -/
theorem Number.read?_integerChars {i : Int} (h : inIntegerRange i) : read? (integerChars i) = some (.integer i h) := by
  have htake : (decimalChars i.natAbs).takeWhile isDigit = decimalChars i.natAbs :=
    List.takeWhile_eq_self_iff.mpr (decimalChars_isDigit _)
  have hdrop : (decimalChars i.natAbs).dropWhile isDigit = [] :=
    List.dropWhile_eq_nil_iff.mpr (decimalChars_isDigit _)
  have hzero := decimalChars_noLeadingZero i.natAbs
  by_cases hneg : i < 0
  · have hvalue : -(i.natAbs : Int) = i := by omega
    have hne : ¬ i = 0 := by omega
    simp only [integerChars, hneg, if_true, read?, htake, hdrop, if_neg hzero, decimalValue_decimalChars, hvalue,
      dif_pos h, hne, and_false, if_false]
  · have hvalue : (i.natAbs : Int) = i := by omega
    have hunsigned : ∀ cs, decimalChars i.natAbs ≠ '-' :: cs := by
      intro cs hcs
      have hdigit := decimalChars_isDigit i.natAbs '-' (hcs ▸ List.mem_cons_self ..)
      exact ne_minus_of_isDigit hdigit rfl
    rw [integerChars, if_neg hneg, read?]
    · simp only [htake, hdrop, if_neg hzero, decimalValue_decimalChars, Bool.false_eq_true, if_false, hvalue,
        dif_pos h, false_and]
    · exact hunsigned

/-! ## Strings -/

theorem hexValue?_hexChar (n : Nat) : hexValue? (hexChar n) = some (n % 16) := by
  have hdigit : ∀ d, d < 16 → hexValue? (hexChar d) = some d := by decide
  have hmod : hexChar n = hexChar (n % 16) := by rw [hexChar, hexChar, Nat.mod_mod]
  rw [hmod]
  exact hdigit _ (Nat.mod_lt n (by decide))

namespace Reader

variable {stack : List Frame} {isKey : Bool} {chars : List Char}

theorem run_append (r : Reader) (cs ds : List Char) : r.run (cs ++ ds) = (r.run cs).bind (·.run ds) := by
  induction cs generalizing r with
  | nil => rfl
  | cons c cs ih =>
    rw [List.cons_append, run, run]
    cases r.step c with
    | none => rfl
    | some r' => exact ih r'

theorem run_singleton (r : Reader) (c : Char) : r.run [c] = r.step c := Option.bind_fun_some _

theorem step_unit {c : Char} {left value digit : Nat} (hdigit : hexValue? c = some digit) (hleft : 1 < left) :
    step ⟨stack, .string isKey chars (.unit left value)⟩ c =
      some ⟨stack, .string isKey chars (.unit (left - 1) (value * 16 + digit))⟩ := by
  simp only [step, inString, hdigit, Option.bind_some, if_pos hleft]

/-- The last digit of a code unit that is no half of a pair. -/
theorem step_lastUnit {c : Char} {value digit : Nat} (hdigit : hexValue? c = some digit)
    (hplain : value * 16 + digit < 0xD800) : step ⟨stack, .string isKey chars (.unit 1 value)⟩ c =
      some ⟨stack, .string isKey (Char.ofNat (value * 16 + digit) :: chars) .none⟩ := by
  have hleading : ¬ (0xD800 ≤ value * 16 + digit ∧ value * 16 + digit < 0xDC00) := by omega
  have htrailing : ¬ (0xDC00 ≤ value * 16 + digit ∧ value * 16 + digit < 0xE000) := by omega
  simp only [step, inString, hdigit, Option.bind_some, if_neg hleading, if_neg htrailing, if_neg (lt_irrefl 1)]

/-- Four digits are read as the character that they number. -/
theorem run_unit {n : Nat} (h : n < 0xD800) : run ⟨stack, .string isKey chars (.unit 4 0)⟩ (hexChars 4 n) =
    some ⟨stack, .string isKey (Char.ofNat n :: chars) .none⟩ := by
  have hdigits : hexChars 4 n = [hexChar (n / 16 / 16 / 16), hexChar (n / 16 / 16), hexChar (n / 16), hexChar n] := rfl
  have hvalue : (((0 * 16 + n / 16 / 16 / 16 % 16) * 16 + n / 16 / 16 % 16) * 16 + n / 16 % 16) * 16 + n % 16 = n := by
    omega
  rw [hdigits, run, step_unit (hexValue?_hexChar _) (by decide), Option.bind_some, run,
    step_unit (hexValue?_hexChar _) (by decide), Option.bind_some, run, step_unit (hexValue?_hexChar _) (by decide),
    Option.bind_some, run, step_lastUnit (hexValue?_hexChar _) (by rw [hvalue]; exact h), Option.bind_some, hvalue, run]

/-- An escaped character is read as itself. -/
theorem run_escape (c : Char) : run ⟨stack, .string isKey chars .none⟩ (escape c) =
    some ⟨stack, .string isKey (c :: chars) .none⟩ := by
  have hchar : ∀ {n}, c.toNat = n → c = Char.ofNat n := fun h => by rw [← h, Char.ofNat_toNat]
  rw [escape]
  split_ifs with hquote hbackslash hbackspace htab hline hpage hreturn hcontrol
  · rw [hquote]; rfl
  · rw [hbackslash]; rfl
  · rw [hchar hbackspace]; rfl
  · rw [hchar htab]; rfl
  · rw [hchar hline]; rfl
  · rw [hchar hpage]; rfl
  · rw [hchar hreturn]; rfl
  · have hopened : run ⟨stack, .string isKey chars .none⟩ ('\\' :: 'u' :: hexChars 4 c.toNat) =
        run ⟨stack, .string isKey chars (.unit 4 0)⟩ (hexChars 4 c.toNat) := rfl
    rw [hopened, run_unit (by omega), Char.ofNat_toNat]
  · rw [run_singleton]
    simp only [step, inString, if_neg hquote, if_neg hbackslash, if_neg hcontrol]

theorem run_escapes (cs : List Char) : run ⟨stack, .string isKey chars .none⟩ (cs.flatMap escape) =
    some ⟨stack, .string isKey (cs.reverse ++ chars) .none⟩ := by
  induction cs generalizing chars with
  | nil => rfl
  | cons c cs ih =>
    rw [List.flatMap_cons, run_append, run_escape, Option.bind_some, ih, List.reverse_cons, List.append_assoc]
    rfl

/-- After its opening quote, a quoted string is read to its end. -/
theorem run_quoted (text : String) : run ⟨stack, .string isKey [] .none⟩ (text.toList.flatMap escape ++ ['"']) =
    endString stack isKey text.toList.reverse := by
  rw [run_append, run_escapes, Option.bind_some, List.append_nil]
  exact run_singleton _ _

/-- A key is read where the machine waits for one. -/
theorem run_key {fields : List (String × Json)} {key : String} {mode : Mode} (h : mode = .firstKey ∨ mode = .key)
    (text : String) : run ⟨.object fields key :: stack, mode⟩ (quoted text) =
      some ⟨.object fields text :: stack, .colon⟩ := by
  have hstart : run ⟨.object fields key :: stack, mode⟩ (quoted text) =
      run ⟨.object fields key :: stack, .string true [] .none⟩ (text.toList.flatMap escape ++ ['"']) := by
    rcases h with rfl | rfl <;> rfl
  simp [hstart, run_quoted, endString]

/-! ## Values -/

/-- The value has been read, up to the character that shows where a number ends. -/
inductive Holds : Mode → Json → Prop where
  | after (value : Json) : Holds (.after value) value
  | number {chars : List Char} {n : Number} (h : Number.read? chars.reverse = some n) :
    Holds (.number chars) (.number n)

/-- A character that cannot stand in a number comes after the value. -/
theorem Holds.step {mode : Mode} {value : Json} (h : Holds mode value) {c : Char} (hc : isNumeric c = false) :
    step ⟨stack, mode⟩ c = afterValue stack value c := by
  cases h with
  | after => rfl
  | number h => simp only [Reader.step, hc, h, Bool.false_eq_true, if_false, Option.bind_some]

theorem Holds.finish? {mode : Mode} {value : Json} (h : Holds mode value) : finish? ⟨[], mode⟩ = some value := by
  cases h with
  | after => rfl
  | number h => simp only [Reader.finish?, h, Option.map_some]

/-- A value may start here. -/
inductive Open : Mode → Prop where
  | value : Open .value
  | firstItem : Open .firstItem

theorem Open.step {mode : Mode} (h : Open mode) {c : Char} (hspace : isSpace c = false) (hc : c ≠ ']') :
    step ⟨stack, mode⟩ c = startValue stack c := by
  cases h with
  | value => simp only [Reader.step, hspace, Bool.false_eq_true, if_false]
  | firstItem => simp only [Reader.step, hspace, hc, Bool.false_eq_true, if_false]

/-- The text of a value is read as the value, wherever so many arrays and objects may still be opened. -/
def Reads (depth : Nat) (value : Json) : Prop :=
  ∀ stack mode, stack.length + depth ≤ maxDepth → Open mode →
    ∃ mode', Holds mode' value ∧ run ⟨stack, mode⟩ value.print = some ⟨stack, mode'⟩

theorem reads_text (depth : Nat) (text : String) : Reads depth (.string text) := by
  intro stack mode _ hopen
  refine ⟨_, .after _, ?_⟩
  have hstart : run ⟨stack, mode⟩ (quoted text) =
      run ⟨stack, .string false [] .none⟩ (text.toList.flatMap escape ++ ['"']) := by
    cases hopen <;> rfl
  rw [print, hstart, run_quoted]
  simp [endString]

theorem run_numeric {cs : List Char} (h : ∀ c ∈ cs, isNumeric c = true) :
    run ⟨stack, .number chars⟩ cs = some ⟨stack, .number (cs.reverse ++ chars)⟩ := by
  induction cs generalizing chars with
  | nil => rfl
  | cons c cs ih =>
    obtain ⟨hc, hcs⟩ := List.forall_mem_cons.mp h
    have hstep : step ⟨stack, .number chars⟩ c = some ⟨stack, .number (c :: chars)⟩ := if_pos hc
    rw [run, hstep, Option.bind_some, ih hcs, List.reverse_cons, List.append_assoc]
    rfl

theorem isNumeric_of_isDigit {c : Char} (h : isDigit c = true) : isNumeric c = true := by
  simp only [isNumeric, h, Bool.true_or]

theorem startValue_number (stack : List Frame) {c : Char} (h : c = '-' ∨ isDigit c = true) :
    startValue stack c = some ⟨stack, .number [c]⟩ ∧ isSpace c = false ∧ c ≠ ']' := by
  have hne : ∀ d, d ≠ '-' → isDigit d = false → c ≠ d := by
    rintro d hminus hdigit rfl
    rcases h with h | h
    · exact hminus h
    · exact Bool.false_ne_true (hdigit.symm.trans h)
  have hstart : (decide (c = '-') || isDigit c) = true := by simpa using h
  refine ⟨?_, ?_, hne ']' (by decide) (by decide)⟩
  · rw [startValue, if_neg (hne '"' (by decide) (by decide)), if_neg (hne '[' (by decide) (by decide)),
      if_neg (hne '\x7b' (by decide) (by decide)), if_pos hstart]
  · simp only [isSpace, hne ' ' (by decide) (by decide), hne '\n' (by decide) (by decide),
      hne '\t' (by decide) (by decide), hne '\r' (by decide) (by decide), decide_false, Bool.or_self]

theorem integerChars_start (i : Int) : ∃ c cs, integerChars i = c :: cs ∧ (c = '-' ∨ isDigit c = true) ∧
    ∀ d ∈ cs, isDigit d = true := by
  rw [integerChars]
  split
  · exact ⟨'-', _, rfl, .inl rfl, decimalChars_isDigit _⟩
  · obtain ⟨c, cs, hcs⟩ := List.exists_cons_of_ne_nil (decimalChars_ne_nil i.natAbs)
    obtain ⟨hc, hall⟩ := List.forall_mem_cons.mp (hcs ▸ decimalChars_isDigit i.natAbs)
    exact ⟨c, cs, hcs, .inr hc, hall⟩

theorem reads_integer (depth : Nat) {i : Int} (h : inIntegerRange i) : Reads depth (.number (.integer i h)) := by
  intro stack mode _ hopen
  obtain ⟨c, cs, hcs, hstart, hdigits⟩ := integerChars_start i
  obtain ⟨hvalue, hspace, hc⟩ := startValue_number stack hstart
  refine ⟨.number (cs.reverse ++ [c]), .number ?_, ?_⟩
  · rw [List.reverse_append, List.reverse_reverse, List.reverse_singleton, List.singleton_append, ← hcs]
    exact Number.read?_integerChars h
  · rw [print, Number.print, hcs, run, hopen.step hspace hc, hvalue, Option.bind_some]
    exact run_numeric fun d hd => isNumeric_of_isDigit (hdigits d hd)

theorem startValue_array (stack : List Frame) (h : stack.length < maxDepth) :
    startValue stack '[' = some ⟨.array [] :: stack, .firstItem⟩ := by
  have hopened : startValue stack '[' = opened stack (.array []) .firstItem := rfl
  rw [hopened, opened, if_pos h]

theorem startValue_object (stack : List Frame) (h : stack.length < maxDepth) :
    startValue stack '\x7b' = some ⟨.object [] "" :: stack, .firstKey⟩ := by
  have hopened : startValue stack '\x7b' = opened stack (.object [] "") .firstKey := rfl
  rw [hopened, opened, if_pos h]

/-- The items behind a value that has been read, and the end of their array. -/
theorem run_printItems {depth : Nat} {items : List Json} (h : ∀ item ∈ items, Reads depth item)
    (hdepth : stack.length + 1 + depth ≤ maxDepth) {before : List Json} {first : Json} {mode : Mode}
    (hfirst : Holds mode first) : run ⟨.array before :: stack, mode⟩ (printItems items) =
      some ⟨stack, .after (.array (before.reverse ++ first :: items))⟩ := by
  induction items generalizing before first mode with
  | nil =>
    rw [printItems, run_singleton, hfirst.step (by decide), ← List.reverse_cons]
    rfl
  | cons item items ih =>
    obtain ⟨hitem, hitems⟩ := List.forall_mem_cons.mp h
    obtain ⟨mode', hholds, hrun⟩ := hitem (.array (first :: before) :: stack) .value hdepth .value
    have hcomma : afterValue (.array before :: stack) first ',' = some ⟨.array (first :: before) :: stack, .value⟩ :=
      rfl
    rw [printItems, run, hfirst.step (by decide), hcomma, Option.bind_some, run_append, hrun, Option.bind_some,
      ih hitems hholds, List.reverse_cons, List.append_assoc]
    rfl

/-- A field of an object: its key and its value. -/
theorem run_field {depth : Nat} {value : Json} (h : Reads depth value) (hdepth : stack.length + 1 + depth ≤ maxDepth)
    (before : List (String × Json)) (old : String) {mode : Mode} (hmode : mode = .firstKey ∨ mode = .key)
    (key : String) : ∃ mode', Holds mode' value ∧
      run ⟨.object before old :: stack, mode⟩ (quoted key ++ ':' :: value.print) =
        some ⟨.object before key :: stack, mode'⟩ := by
  obtain ⟨mode', hholds, hrun⟩ := h (.object before key :: stack) .value hdepth .value
  have hcolon : step ⟨.object before key :: stack, .colon⟩ ':' = some ⟨.object before key :: stack, .value⟩ := rfl
  refine ⟨mode', hholds, ?_⟩
  rw [run_append, run_key hmode, Option.bind_some, run, hcolon, Option.bind_some, hrun]

/-- The fields behind one that has been read, and the end of their object. -/
theorem run_printFields {depth : Nat} {fields : List (String × Json)} (h : ∀ field ∈ fields, Reads depth field.2)
    (hdepth : stack.length + 1 + depth ≤ maxDepth) {before : List (String × Json)} {key : String} {first : Json}
    {mode : Mode} (hfirst : Holds mode first) : run ⟨.object before key :: stack, mode⟩ (printFields fields) =
      some ⟨stack, .after (.object (before.reverse ++ (key, first) :: fields))⟩ := by
  induction fields generalizing before key first mode with
  | nil =>
    rw [printFields, run_singleton, hfirst.step (by decide), ← List.reverse_cons]
    rfl
  | cons field fields ih =>
    obtain ⟨next, value⟩ := field
    obtain ⟨hvalue, hfields⟩ := List.forall_mem_cons.mp h
    obtain ⟨mode', hholds, hrun⟩ := run_field hvalue hdepth ((key, first) :: before) "" (.inr rfl) next
    have hcomma : afterValue (.object before key :: stack) first ',' =
        some ⟨.object ((key, first) :: before) "" :: stack, .key⟩ := rfl
    rw [printFields, run, hfirst.step (by decide), hcomma, Option.bind_some, run_append, hrun, Option.bind_some,
      ih hfields hholds, List.reverse_cons, List.append_assoc]
    rfl

end Reader

/-! ## The whole text -/

/-- A value without doubles and repeated keys, with at most so many arrays and objects within each other. -/
inductive Exact : (depth : Nat) → Json → Prop where
  | null {depth : Nat} : Exact depth .null
  | bool {depth : Nat} (b : Bool) : Exact depth (.bool b)
  | integer {depth : Nat} {i : Int} (h : inIntegerRange i) : Exact depth (.number (.integer i h))
  | string {depth : Nat} (text : String) : Exact depth (.string text)
  | array {depth : Nat} {items : List Json} (h : ∀ item ∈ items, Exact depth item) :
    Exact (depth + 1) (.array items)
  | object {depth : Nat} {fields : List (String × Json)} (hkeys : (fields.map (·.1)).Nodup)
    (h : ∀ field ∈ fields, Exact depth field.2) : Exact (depth + 1) (.object fields)

namespace Exact

open Reader

theorem mono {depth limit : Nat} {value : Json} (h : Exact depth value) (hle : depth ≤ limit) : Exact limit value := by
  induction h generalizing limit with
  | null => exact .null
  | bool b => exact .bool b
  | integer h => exact .integer h
  | string text => exact .string text
  | array _ ih =>
    obtain ⟨limit, rfl⟩ := Nat.exists_eq_add_one.mpr (Nat.zero_lt_of_lt hle)
    exact .array fun item hitem => ih item hitem (Nat.le_of_succ_le_succ hle)
  | object hkeys _ ih =>
    obtain ⟨limit, rfl⟩ := Nat.exists_eq_add_one.mpr (Nat.zero_lt_of_lt hle)
    exact .object hkeys fun field hfield => ih field hfield (Nat.le_of_succ_le_succ hle)

theorem reads {depth : Nat} {value : Json} (h : Exact depth value) : Reads depth value := by
  induction h with
  | null =>
    intro stack mode _ hopen
    refine ⟨_, .after _, ?_⟩
    cases hopen <;> rfl
  | bool b =>
    intro stack mode _ hopen
    refine ⟨_, .after _, ?_⟩
    cases b <;> cases hopen <;> rfl
  | integer h => exact reads_integer _ h
  | string text => exact reads_text _ text
  | @array depth items _ ih =>
    intro stack mode hdepth hopen
    refine ⟨_, .after _, ?_⟩
    have hopened := startValue_array stack (by omega)
    cases items with
    | nil =>
      rw [print, run, hopen.step (by decide) (by decide), hopened]
      rfl
    | cons item items =>
      obtain ⟨hitem, hitems⟩ := List.forall_mem_cons.mp ih
      have hdepth' : stack.length + 1 + depth ≤ maxDepth := by omega
      obtain ⟨mode', hholds, hrun⟩ := hitem (.array [] :: stack) .firstItem hdepth' .firstItem
      rw [print, run, hopen.step (by decide) (by decide), hopened, Option.bind_some, run_append, hrun,
        Option.bind_some, run_printItems hitems hdepth' hholds]
      rfl
  | @object depth fields _ _ ih =>
    intro stack mode hdepth hopen
    refine ⟨_, .after _, ?_⟩
    have hopened := startValue_object stack (by omega)
    match fields, ih with
    | [], _ =>
      rw [print, run, hopen.step (by decide) (by decide), hopened]
      rfl
    | (key, value) :: fields, ih =>
      obtain ⟨hvalue, hfields⟩ := List.forall_mem_cons.mp ih
      have hdepth' : stack.length + 1 + depth ≤ maxDepth := by omega
      obtain ⟨mode', hholds, hrun⟩ := run_field hvalue hdepth' [] "" (.inl rfl) key
      rw [print, run, hopen.step (by decide) (by decide), hopened, Option.bind_some, run_append, hrun,
        Option.bind_some, run_printFields hfields hdepth' hholds]
      rfl

theorem distinctItems_eq {items : List Json} (h : ∀ item ∈ items, item.distinct = item) :
    distinctItems items = items := by
  induction items with
  | nil => rfl
  | cons item items ih =>
    obtain ⟨hitem, hitems⟩ := List.forall_mem_cons.mp h
    rw [distinctItems, hitem, ih hitems]

theorem distinctFields_eq {fields : List (String × Json)} (h : ∀ field ∈ fields, field.2.distinct = field.2) :
    distinctFields fields = fields := by
  induction fields with
  | nil => rfl
  | cons field fields ih =>
    obtain ⟨hfield, hfields⟩ := List.forall_mem_cons.mp h
    rw [distinctFields, hfield, ih hfields]

/-- Fields with new keys go to the end one after another. -/
theorem foldl_insert (before : List (String × Json)) {fields : List (String × Json)}
    (h : ((before ++ fields).map (·.1)).Nodup) :
    fields.foldl (fun fs (key, value) => insert fs key value) before = before ++ fields := by
  induction fields generalizing before with
  | nil => exact (List.append_nil before).symm
  | cons field fields ih =>
    obtain ⟨key, value⟩ := field
    have hnew : before.any (·.1 == key) = false := by
      rw [List.map_append, List.nodup_append] at h
      refine List.any_eq_false.mpr fun other hother heq => ?_
      exact h.2.2 other.1 (List.mem_map_of_mem hother) key (List.mem_cons_self ..) (beq_iff_eq.mp heq)
    have hinsert : insert before key value = before ++ [(key, value)] := by
      rw [insert, hnew, if_neg Bool.false_ne_true]
    rw [List.append_cons] at h
    simp only [List.foldl_cons, hinsert]
    rw [ih _ h, ← List.append_cons]

theorem distinct_eq {depth : Nat} {value : Json} (h : Exact depth value) : value.distinct = value := by
  induction h with
  | array _ ih => rw [distinct, distinctItems_eq ih]
  | @object _ fields hkeys _ ih =>
    have hfold := foldl_insert [] hkeys
    rw [distinct, distinctFields_eq ih, hfold, List.nil_append]
  | _ => rfl

/-- The text of a value is read as the value. -/
theorem read?_text {value : Json} (h : Exact maxDepth value) : read? value.text = some value := by
  obtain ⟨mode, hholds, hrun⟩ := h.reads [] .value (by simp) .value
  rw [read?, scan?, text, String.toList_ofList, start, hrun, Option.bind_some, hholds.finish?, Option.map_some,
    h.distinct_eq]

end Exact

end Json

end SqlAdapter
