/-
The text of a JSON value determines the value.

A text that begins with the text of a value without doubles begins with that of no
other such value, as long as the end of a number shows in what follows
(`Exact.determined`, by induction on the value). This holds however many arrays and
objects are within each other, so it cannot be had from reading the text back: the
reader opens only so many. For strings it is had from there
(`quoted_append_eq`).
-/
import SqlAdapter.Proofs.Json.ReadBack

namespace SqlAdapter

namespace Json

variable {r s : List Char}

/-! ## Numbers -/

theorem decimalChars_append_inj {m n : Nat} (hr : Stops r) (hs : Stops s)
    (h : decimalChars m ++ r = decimalChars n ++ s) : m = n ∧ r = s := by
  have hdigits : decimalChars m = decimalChars n := by
    rw [← takeWhile_decimalChars m hr, h, takeWhile_decimalChars n hs]
  refine ⟨?_, ?_⟩
  · rw [← decimalValue_decimalChars m, hdigits, decimalValue_decimalChars]
  · rw [hdigits] at h
    exact List.append_cancel_left h

theorem integerChars_append_inj {i j : Int} (hr : Stops r) (hs : Stops s)
    (h : integerChars i ++ r = integerChars j ++ s) : i = j ∧ r = s := by
  have hminus : ∀ n cs ds, decimalChars n ++ cs ≠ '-' :: ds := by
    intro n cs ds heq
    obtain ⟨c, digits, hc⟩ := List.exists_cons_of_ne_nil (decimalChars_ne_nil n)
    rw [hc, List.cons_append] at heq
    obtain ⟨rfl, -⟩ := List.cons.inj heq
    exact ne_minus_of_isDigit (decimalChars_isDigit n '-' (hc ▸ List.mem_cons_self ..)) rfl
  rw [integerChars, integerChars] at h
  split at h
  · split at h
    · obtain ⟨habs, hrest⟩ := decimalChars_append_inj hr hs (List.cons.inj h).2
      exact ⟨by omega, hrest⟩
    · exact absurd h.symm (hminus _ _ _)
  · split at h
    · exact absurd h (hminus _ _ _)
    · obtain ⟨habs, hrest⟩ := decimalChars_append_inj hr hs h
      exact ⟨by omega, hrest⟩

/-! ## Strings -/

/-- Behind a value that is in no array or object, the reader has that value or none. -/
theorem run_after {value : Json} {cs : List Char} {reader : Reader}
    (h : Reader.run ⟨[], .after value⟩ cs = some reader) : reader = ⟨[], .after value⟩ := by
  induction cs with
  | nil => exact (Option.some.inj h).symm
  | cons c cs ih =>
    obtain ⟨next, hstep, hrun⟩ := Option.bind_eq_some_iff.mp h
    have hafter : Reader.afterValue [] value c = some next := hstep
    rw [Reader.afterValue] at hafter
    split at hafter
    · cases hafter
      exact ih hrun
    · cases hafter

theorem run_quotedText (text : String) :
    Reader.run ⟨[], .value⟩ (quoted text) = some ⟨[], .after (.string text)⟩ := by
  obtain ⟨mode, hholds, hrun⟩ := Reader.reads_text 0 text [] .value (by decide) .value
  cases hholds
  exact hrun

/-- No quoted string goes on as another one. -/
theorem quoted_append_eq {text other : String} {more : List Char} (h : quoted other = quoted text ++ more) :
    text = other ∧ more = [] := by
  have hread := run_quotedText other
  rw [h, Reader.run_append, run_quotedText, Option.bind_some] at hread
  obtain rfl : other = text := by simpa using run_after hread
  exact ⟨rfl, List.self_eq_append_right.mp h⟩

theorem quoted_append_inj {text other : String} (h : quoted text ++ r = quoted other ++ s) : text = other ∧ r = s := by
  rcases List.append_eq_append_iff.mp h with ⟨more, hother, hr⟩ | ⟨more, htext, hs⟩
  · obtain ⟨rfl, rfl⟩ := quoted_append_eq hother
    exact ⟨rfl, hr⟩
  · obtain ⟨rfl, rfl⟩ := quoted_append_eq htext
    exact ⟨rfl, hs.symm⟩

/-! ## The first character -/

/-- What the text of a value begins with: one character for all numbers, and one for the two truth values. -/
def lead : Json → Char
  | .null => 'n'
  | .bool _ => 't'
  | .number _ => '0'
  | .string _ => '"'
  | .array _ => '['
  | .object _ => '\x7b'

/-- What the values begin with whose text begins with the character. -/
def leadOf (c : Char) : Char := if c = '-' ∨ isDigit c = true then '0' else if c = 'f' then 't' else c

namespace Exact

variable {m n : Nat} {a b : Json}

theorem print_lead (h : Exact m a) : ∃ c cs, a.print = c :: cs ∧ leadOf c = a.lead := by
  cases h with
  | null => exact ⟨_, _, rfl, rfl⟩
  | bool b => cases b <;> exact ⟨_, _, rfl, rfl⟩
  | @integer _ i h =>
    obtain ⟨c, cs, hcs, hstart, -⟩ := Reader.integerChars_start i
    exact ⟨c, cs, hcs, if_pos hstart⟩
  | string text => exact ⟨_, _, rfl, rfl⟩
  | @array _ items h =>
    cases items with
    | nil => exact ⟨_, _, rfl, rfl⟩
    | cons item items => exact ⟨_, _, rfl, rfl⟩
  | @object _ fields h =>
    match fields with
    | [] => exact ⟨_, _, rfl, rfl⟩
    | (key, value) :: fields => exact ⟨_, _, rfl, rfl⟩

theorem lead_eq (ha : Exact m a) (hb : Exact n b) (h : a.print ++ r = b.print ++ s) : a.lead = b.lead := by
  obtain ⟨c, cs, hcs, hc⟩ := ha.print_lead
  obtain ⟨d, ds, hds, hd⟩ := hb.print_lead
  rw [hcs, hds, List.cons_append, List.cons_append] at h
  rw [← hc, ← hd, (List.cons.inj h).1]

/-- No text of a value closes an array. -/
theorem print_append_ne (h : Exact m a) (cs ds : List Char) : a.print ++ cs ≠ ']' :: ds := by
  obtain ⟨c, rest, hrest, hc⟩ := h.print_lead
  intro heq
  rw [hrest, List.cons_append] at heq
  obtain ⟨rfl, -⟩ := List.cons.inj heq
  revert hc
  cases a <;> simp [leadOf, lead, isDigit]

end Exact

/-! ## Whole values -/

/-- A text that begins with the value begins with no other one, and the rest is the same, as far as the end of the
values shows in what follows. -/
def Determined (a : Json) : Prop := ∀ {n : Nat} {b : Json} {r s : List Char}, Exact n b → Stops r → Stops s →
  a.print ++ r = b.print ++ s → a = b ∧ r = s

/-- The items behind one that has been read, and what follows their array. -/
theorem printItems_append_inj {n : Nat} {xs ys : List Json} (h : ∀ x ∈ xs, Determined x)
    (hys : ∀ y ∈ ys, Exact n y) (heq : printItems xs ++ r = printItems ys ++ s) : xs = ys ∧ r = s := by
  have hstops : ∀ items cs, Stops (printItems items ++ cs) := by
    intro items cs
    cases items <;> exact stops_cons (by decide) _
  induction xs generalizing ys with
  | nil =>
    cases ys with
    | nil => exact ⟨rfl, (List.cons.inj heq).2⟩
    | cons y ys => simp [printItems] at heq
  | cons x xs ih =>
    cases ys with
    | nil => simp [printItems] at heq
    | cons y ys =>
      obtain ⟨hx, hxs⟩ := List.forall_mem_cons.mp h
      obtain ⟨hy, hmore⟩ := List.forall_mem_cons.mp hys
      simp only [printItems, List.cons_append, List.append_assoc, List.cons.injEq, true_and] at heq
      obtain ⟨rfl, hrest⟩ := hx hy (hstops _ _) (hstops _ _) heq
      obtain ⟨rfl, rfl⟩ := ih hxs hmore hrest
      exact ⟨rfl, rfl⟩

theorem array_append_inj {m n : Nat} {xs ys : List Json} (h : ∀ x ∈ xs, Determined x) (hxs : ∀ x ∈ xs, Exact m x)
    (hys : ∀ y ∈ ys, Exact n y) (heq : (Json.array xs).print ++ r = (Json.array ys).print ++ s) :
    xs = ys ∧ r = s := by
  match xs, ys with
  | [], [] => exact ⟨rfl, (List.cons.inj (List.cons.inj heq).2).2⟩
  | [], y :: ys =>
    simp only [print, List.cons_append, List.append_assoc, List.nil_append, List.cons.injEq, true_and] at heq
    exact absurd heq.symm ((hys y (List.mem_cons_self ..)).print_append_ne _ _)
  | x :: xs, [] =>
    simp only [print, List.cons_append, List.append_assoc, List.nil_append, List.cons.injEq, true_and] at heq
    exact absurd heq ((hxs x (List.mem_cons_self ..)).print_append_ne _ _)
  | x :: xs, y :: ys => exact printItems_append_inj h hys (congrArg (',' :: ·) (List.cons.inj heq).2)

/-- The fields behind one that has been read, and what follows their object. -/
theorem printFields_append_inj {n : Nat} {xs ys : List (String × Json)} (h : ∀ x ∈ xs, Determined x.2)
    (hys : ∀ y ∈ ys, Exact n y.2) (heq : printFields xs ++ r = printFields ys ++ s) : xs = ys ∧ r = s := by
  have hstops : ∀ fields cs, Stops (printFields fields ++ cs) := by
    intro fields cs
    obtain - | ⟨⟨key, value⟩, fields⟩ := fields <;> exact stops_cons (by decide) _
  induction xs generalizing ys with
  | nil =>
    cases ys with
    | nil => exact ⟨rfl, (List.cons.inj heq).2⟩
    | cons y ys =>
      obtain ⟨key, value⟩ := y
      simp [printFields] at heq
  | cons x xs ih =>
    obtain ⟨key, value⟩ := x
    cases ys with
    | nil => simp [printFields] at heq
    | cons y ys =>
      obtain ⟨key', value'⟩ := y
      obtain ⟨hx, hxs⟩ := List.forall_mem_cons.mp h
      obtain ⟨hy, hmore⟩ := List.forall_mem_cons.mp hys
      simp only [printFields, List.cons_append, List.append_assoc, List.cons.injEq, true_and] at heq
      obtain ⟨rfl, hvalue⟩ := quoted_append_inj heq
      obtain ⟨rfl, hrest⟩ := hx hy (hstops _ _) (hstops _ _) (List.cons.inj hvalue).2
      obtain ⟨rfl, rfl⟩ := ih hxs hmore hrest
      exact ⟨rfl, rfl⟩

theorem object_append_inj {n : Nat} {xs ys : List (String × Json)} (h : ∀ x ∈ xs, Determined x.2)
    (hys : ∀ y ∈ ys, Exact n y.2) (heq : (Json.object xs).print ++ r = (Json.object ys).print ++ s) :
    xs = ys ∧ r = s := by
  match xs, ys with
  | [], [] => exact ⟨rfl, (List.cons.inj (List.cons.inj heq).2).2⟩
  | [], (key, value) :: ys => simp [print, quoted] at heq
  | (key, value) :: xs, [] => simp [print, quoted] at heq
  | (key, value) :: xs, (key', value') :: ys =>
    exact printFields_append_inj h hys (congrArg (',' :: ·) (List.cons.inj heq).2)

/-- The text of a value without doubles is the beginning of that of no other such value. -/
theorem Exact.determined {m : Nat} {a : Json} (ha : Exact m a) : Determined a := by
  intro n b r s hb hr hs h
  induction ha generalizing n b r s with
  | @null depth =>
    have hlead := Exact.lead_eq (.null : Exact depth .null) hb h
    cases hb with
    | null => exact ⟨rfl, List.append_cancel_left h⟩
    | _ => simp [lead] at hlead
  | @bool depth value =>
    have hlead := Exact.lead_eq (.bool value : Exact depth _) hb h
    cases hb with
    | bool other =>
      obtain rfl : value = other := by cases value <;> cases other <;> simp [print] at h ⊢
      exact ⟨rfl, List.append_cancel_left h⟩
    | _ => simp [lead] at hlead
  | @integer depth i hi =>
    have hlead := Exact.lead_eq (.integer hi : Exact depth _) hb h
    cases hb with
    | integer hj =>
      obtain ⟨rfl, rfl⟩ := integerChars_append_inj hr hs h
      exact ⟨rfl, rfl⟩
    | _ => simp [lead] at hlead
  | @string depth text =>
    have hlead := Exact.lead_eq (.string text : Exact depth _) hb h
    cases hb with
    | string other =>
      obtain ⟨rfl, rfl⟩ := quoted_append_inj h
      exact ⟨rfl, rfl⟩
    | _ => simp [lead] at hlead
  | @array depth items hitems ih =>
    have hlead := Exact.lead_eq (.array hitems) hb h
    cases hb with
    | @array _ others hothers =>
      obtain ⟨rfl, rfl⟩ := array_append_inj ih hitems hothers h
      exact ⟨rfl, rfl⟩
    | _ => simp [lead] at hlead
  | @object depth fields hkeys hfields ih =>
    have hlead := Exact.lead_eq (.object hkeys hfields) hb h
    cases hb with
    | @object _ others _ hothers =>
      obtain ⟨rfl, rfl⟩ := object_append_inj ih hothers h
      exact ⟨rfl, rfl⟩
    | _ => simp [lead] at hlead

/-- Two values with one text are one value. -/
theorem Exact.text_inj {m n : Nat} {a b : Json} (ha : Exact m a) (hb : Exact n b) (h : a.text = b.text) : a = b := by
  have hprint : a.print ++ [] = b.print ++ [] := congrArg (· ++ []) (String.ofList_injective h)
  exact (ha.determined hb stops_nil stops_nil hprint).1

end Json

end SqlAdapter
