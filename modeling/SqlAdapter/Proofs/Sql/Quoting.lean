/-
Quoted text delimits itself.

`unquoted?` reads a text in quotes as the database does, up to the first quote of
its kind that is not doubled. What it reads is exactly what was quoted, and what it
leaves is what follows, as long as that does not go on with such a quote
(`unquoted?_eq_some_iff`). A name of several parts is read one part after another
(`Named`).

The readers of placeholders only toggle at quotes. Outside of quotes they may be
started anew at any place where no number goes on (`number_append`,
`indices_append`), so a text without placeholders that closes its quotes is
`Skipped` wherever it stands: in particular all quoted text.
-/
import SqlAdapter.Proofs.Sql.Spans
import SqlAdapter.Proofs.Sql.Template
import SqlAdapter.Proofs.Sql.Truncation

namespace SqlAdapter

open Identifier (doubled enclosed)
open Placeholder SqlAdapter.Span

/-! ## Reading what was quoted -/

/-- What stands in quotes that are open, up to the first quote that is not doubled, and what follows that one. None
where the text ends before it. -/
def inQuotes? (quote : Char) : List Char → Option (List Char × List Char)
  | [] => none
  | [c] => if c = quote then some ([], []) else none
  | c :: d :: cs =>
    if c = quote then
      if d = quote then (inQuotes? quote cs).map fun (inside, rest) => (quote :: inside, rest) else some ([], d :: cs)
    else (inQuotes? quote (d :: cs)).map fun (inside, rest) => (c :: inside, rest)

/-- Reads a text in quotes: what stands in them, and what follows. -/
def unquoted? (quote : Char) : List Char → Option (List Char × List Char)
  | [] => none
  | c :: cs => if c = quote then inQuotes? quote cs else none

section Reading

variable {quote c : Char} {cs inside rest : List Char}

theorem inQuotes?_other (hc : c ≠ quote) (cs : List Char) :
    inQuotes? quote (c :: cs) = (inQuotes? quote cs).map fun (inside, rest) => (c :: inside, rest) := by
  cases cs with
  | nil => simp [inQuotes?, hc]
  | cons d cs => rw [inQuotes?, if_neg hc]

theorem inQuotes?_doubled (quote : Char) (cs : List Char) :
    inQuotes? quote (quote :: quote :: cs) =
      (inQuotes? quote cs).map fun (inside, rest) => (quote :: inside, rest) := by
  rw [inQuotes?, if_pos rfl, if_pos rfl]

theorem inQuotes?_closing (h : rest.head? ≠ some quote) : inQuotes? quote (quote :: rest) = some ([], rest) := by
  cases rest with
  | nil => rw [inQuotes?, if_pos rfl]
  | cons d rest =>
    have hd : ¬ d = quote := by simpa using h
    rw [inQuotes?, if_pos rfl, if_neg hd]

/-- Behind the doubled text, what follows decides. -/
theorem inQuotes?_append (quote : Char) (inside cs : List Char) : inQuotes? quote (doubled quote inside ++ cs) =
    (inQuotes? quote cs).map fun (more, rest) => (inside ++ more, rest) := by
  induction inside with
  | nil => simp [doubled]
  | cons c inside ih =>
    by_cases hc : c = quote
    · subst hc
      simp [doubled, inQuotes?_doubled, ih, Function.comp_def]
    · simp [doubled, hc, inQuotes?_other hc, ih, Function.comp_def]

/-- Quoted text is read as what was quoted, and no other text is read as it. -/
theorem unquoted?_eq_some_iff : unquoted? quote cs = some (inside, rest) ↔
    cs = enclosed quote inside ++ rest ∧ rest.head? ≠ some quote := by
  constructor
  · intro h
    cases cs with
    | nil => cases h
    | cons c cs =>
      rw [unquoted?] at h
      split at h
      · next hc =>
        subst hc
        obtain ⟨inside', rest', rfl, hrest'⟩ := exists_closing c cs
        rw [inQuotes?_append] at h
        cases rest' with
        | none => simp [closing, inQuotes?] at h
        | some after =>
          have hafter : after.head? ≠ some c := hrest' after rfl
          rw [closing, inQuotes?_closing hafter] at h
          obtain ⟨rfl, rfl⟩ : inside' = inside ∧ after = rest := by simpa using h
          exact ⟨by simp [enclosed, closing], hafter⟩
      · cases h
  · rintro ⟨rfl, hrest⟩
    rw [enclosed, List.cons_append, List.append_assoc, unquoted?, if_pos rfl, inQuotes?_append, List.singleton_append,
      inQuotes?_closing hrest]
    simp

/-- Names in quotes with a dot between each two, and what follows them. -/
inductive Named : List Char → List String → List Char → Prop where
  | last {cs part rest : List Char} (h : unquoted? '"' cs = some (part, rest)) (hend : rest.head? ≠ some '.') :
    Named cs [String.ofList part] rest
  | more {cs part next rest : List Char} {names : List String} (h : unquoted? '"' cs = some (part, '.' :: next))
    (hmore : Named next names rest) : Named cs (String.ofList part :: names) rest

namespace Named

variable {names found : List String} {left : List Char}

theorem unique (h : Named cs names rest) (h' : Named cs found left) : found = names ∧ left = rest := by
  induction h generalizing found left with
  | last hread hend =>
    cases h' with
    | last hread' =>
      obtain ⟨rfl, rfl⟩ : _ ∧ _ := by simpa using hread.symm.trans hread'
      exact ⟨rfl, rfl⟩
    | more hread' =>
      obtain ⟨rfl, rfl⟩ : _ ∧ _ := by simpa using hread.symm.trans hread'
      exact absurd rfl hend
  | more hread hmore ih =>
    cases h' with
    | last hread' hend' =>
      obtain ⟨rfl, rfl⟩ : _ ∧ _ := by simpa using hread.symm.trans hread'
      exact absurd rfl hend'
    | more hread' hmore' =>
      obtain ⟨rfl, rfl⟩ : _ ∧ _ := by simpa using hread.symm.trans hread'
      obtain ⟨rfl, rfl⟩ := ih hmore'
      exact ⟨rfl, rfl⟩

theorem of_quoted (hquote : rest.head? ≠ some '"') (hdot : rest.head? ≠ some '.') (part : String)
    (parts : List String) :
    Named ((".".intercalate ((part :: parts).map Identifier.quotePart)).toList ++ rest) (part :: parts) rest := by
  induction parts generalizing part with
  | nil =>
    have hread : unquoted? '"' ((Identifier.quotePart part).toList ++ rest) = some (part.toList, rest) :=
      unquoted?_eq_some_iff.mpr ⟨by rw [Identifier.quotePart, String.toList_ofList], hquote⟩
    have hlast := Named.last hread hdot
    rw [String.ofList_toList] at hlast
    simpa using hlast
  | cons next parts ih =>
    have hrest := ih next
    generalize htext : ".".intercalate ((next :: parts).map Identifier.quotePart) = text at hrest
    have hread : unquoted? '"' ((Identifier.quotePart part).toList ++ '.' :: (text.toList ++ rest)) =
        some (part.toList, '.' :: (text.toList ++ rest)) :=
      unquoted?_eq_some_iff.mpr ⟨by rw [Identifier.quotePart, String.toList_ofList], by simp⟩
    have hmore := Named.more hread hrest
    rw [List.map_cons, List.map_cons, String.intercalate_cons_cons, ← List.map_cons, htext, String.toList_append,
      String.toList_append, List.append_assoc, List.append_assoc]
    rwa [String.ofList_toList] at hmore

/-- The names that a text goes on with are those that were written. -/
theorem quoted_iff (hquote : rest.head? ≠ some '"') (hdot : rest.head? ≠ some '.') (hnames : names ≠ []) :
    Named ((".".intercalate (names.map Identifier.quotePart)).toList ++ rest) found left ↔
      found = names ∧ left = rest := by
  obtain ⟨part, parts, rfl⟩ := List.exists_cons_of_ne_nil hnames
  have hwritten := of_quoted hquote hdot part parts
  constructor
  · exact hwritten.unique
  · rintro ⟨rfl, rfl⟩
    exact hwritten

end Named

end Reading

/-! ## Starting anew outside of quotes -/

namespace Placeholder

/-- Where a reader of placeholders stands after a text. -/
def Quoting.afterAll (q : Quoting) (cs : List Char) : Quoting := cs.foldl Quoting.after q

theorem weave_append (q : Quoting) (next : Nat) (cs ds : List Char) :
    weave next (piecesFrom q (cs ++ ds)) = weave next (piecesFrom q cs) ++
        weave (next + ((piecesFrom q cs).length - 1)) (piecesFrom (q.afterAll cs) ds) ∧
      (piecesFrom q (cs ++ ds)).length =
        (piecesFrom q cs).length - 1 + (piecesFrom (q.afterAll cs) ds).length := by
  induction cs generalizing q next with
  | nil => simp [piecesFrom, weave, Quoting.afterAll]
  | cons c cs ih =>
    have hne := piecesFrom_ne_nil (q.after c)
    have hlength : ∀ es, 0 < (piecesFrom (q.after c) es).length := fun es => List.length_pos_of_ne_nil (hne es)
    by_cases hmark : q = .plain ∧ c = '?'
    · obtain ⟨rfl, rfl⟩ := hmark
      have hafter : Quoting.after .plain '?' = .plain := rfl
      obtain ⟨htext, hcount⟩ := ih .plain (next + 1)
      have hcs := hlength cs
      rw [hafter] at hne hcs
      have hnext : next + 1 + ((piecesFrom .plain cs).length - 1) = next + (piecesFrom .plain cs).length := by omega
      rw [List.cons_append, piecesFrom_mark, piecesFrom_mark, weave_mark _ (hne _), weave_mark _ (hne _), htext, hnext,
        List.length_cons, List.length_cons, hcount, List.append_assoc]
      exact ⟨rfl, by simp only [Quoting.afterAll, List.foldl_cons, hafter]; omega⟩
    · obtain ⟨htext, hcount⟩ := ih (q.after c) next
      rw [List.cons_append, piecesFrom_cons hmark, piecesFrom_cons hmark, weave_onto _ _ (hne _),
        weave_onto _ _ (hne _), length_onto _ (hne _), length_onto _ (hne _), htext, hcount, List.append_assoc]
      exact ⟨rfl, rfl⟩

/-- The readers are outside of quotes behind a text. -/
def Settled (sql : String) : Prop := Quoting.afterAll .plain sql.toList = .plain

instance (sql : String) : Decidable (Settled sql) := inferInstanceAs (Decidable (_ = _))

/-- Numbering goes on behind a text as it would begin there, with the numbers that come next. -/
theorem number_append {s : String} (hs : Settled s) (t : String) (first : Nat) : number (s ++ t) first =
    let front := number s first
    let back := number t (first + front.2)
    (front.1 ++ back.1, front.2 + back.2) := by
  obtain ⟨htext, hcount⟩ := weave_append .plain first s.toList t.toList
  rw [Settled] at hs
  rw [hs] at htext hcount
  have hpos : 0 < (piecesFrom .plain t.toList).length := List.length_pos_of_ne_nil (piecesFrom_ne_nil _ _)
  simp only [number, pieces, String.toList_append, htext, hcount, String.ofList_append]
  exact Prod.ext rfl (Nat.add_sub_assoc hpos _)

/-- An open number is one outside of quotes; it ends where no digit follows. -/
theorem indicesFrom_append {q : Quoting} {pending : Open} (hopen : pending = none ∨ q = .plain) (cs : List Char)
    {ds : List Char} (hds : endsNumber ds = true) :
    indicesFrom q pending (cs ++ ds) = indicesFrom q pending cs ++ indicesFrom (q.afterAll cs) none ds := by
  induction cs generalizing q pending with
  | nil =>
    rcases hopen with rfl | rfl
    · rfl
    · exact indicesFrom_ends pending hds
  | cons c cs ih =>
    have hafter : ∀ q : Quoting, q.afterAll (c :: cs) = (q.after c).afterAll cs := fun _ => rfl
    rw [List.cons_append, hafter]
    cases pending with
    | none =>
      by_cases hdollar : q = .plain ∧ c = '$'
      · obtain ⟨rfl, rfl⟩ := hdollar
        exact ih (.inr rfl)
      · simp only [indicesFrom, if_neg hdollar]
        exact ih (.inl rfl)
    | some digits =>
      obtain rfl : q = .plain := hopen.resolve_left (Option.some_ne_none digits)
      by_cases hdigit : isDigit c = true
      · have hplain : Quoting.after .plain c = .plain := by
          refine Quoting.after_plain ?_
          rintro (rfl | rfl) <;> exact absurd hdigit (by decide)
        simp only [indicesFrom, if_pos hdigit, hplain]
        exact ih (.inr rfl)
      · simp only [indicesFrom, if_neg hdigit, List.append_assoc]
        by_cases hdollar : c = '$'
        · subst hdollar
          exact congrArg (closed (some digits) ++ ·) (ih (.inr rfl))
        · simp only [if_neg hdollar]
          exact congrArg (closed (some digits) ++ ·) (ih (.inl rfl))

/-- The numbers of two texts are those of the first and those of the second, if the second does not go on with one. -/
theorem indices_append {s t : String} (hs : Settled s) (ht : endsNumber t.toList = true) :
    indices (s ++ t) = indices s ++ indices t := by
  rw [Settled] at hs
  rw [indices, String.toList_append, indicesFrom_append (.inl rfl) _ ht, hs]
  rfl

/-- Both readers, coming to the text outside of quotes, find nothing in it, change nothing of it, and are outside of
quotes behind it. -/
structure Skipped (sql : String) : Prop where
  number : ∀ before rest first, Settled before → number (before ++ sql ++ rest) first =
    let front := Placeholder.number before first
    let back := Placeholder.number rest (first + front.2)
    (front.1 ++ sql ++ back.1, front.2 + back.2)
  indices : ∀ before rest, Settled before → indices (before ++ sql ++ rest) = indices before ++ indices rest
  settled : ∀ before, Settled before → Settled (before ++ sql)

theorem afterAll_of_passes {q q' : Quoting} {cs : List Char} (h : passes q cs = some q') : q.afterAll cs = q' := by
  induction cs generalizing q with
  | nil => exact Option.some.inj h
  | cons c cs ih =>
    rw [passes] at h
    split at h
    · cases h
    · exact ih h

theorem number_inert {sql : String} (h : Inert sql) (rest : String) (first : Nat) :
    number (sql ++ rest) first = (sql ++ (number rest first).1, (number rest first).2) := by
  have hne := piecesFrom_ne_nil .plain rest.toList
  simp only [number, pieces, String.toList_append, piecesFrom_passes _ h.passes, weave_onto _ _ hne, length_onto _ hne,
    String.ofList_append, String.ofList_toList]

theorem indices_inert {sql : String} (h : Inert sql) (rest : String) : indices (sql ++ rest) = indices rest := by
  rw [indices, String.toList_append, indicesFrom_passes _ h.passes]
  rfl

theorem Skipped.of_inert {sql : String} (h : Inert sql) (hne : sql.toList ≠ []) : Skipped sql where
  number before rest first hbefore := by
    rw [String.append_assoc, number_append hbefore]
    simp only [number_inert h, String.append_assoc]
  indices before rest hbefore := by
    have hends : endsNumber (sql ++ rest).toList = true := by
      obtain ⟨c, cs, hcs⟩ := List.exists_cons_of_ne_nil hne
      have hfirst := h.ends
      rw [hcs] at hfirst
      rw [String.toList_append, hcs]
      exact hfirst
    rw [String.append_assoc, indices_append hbefore hends, indices_inert h]
  settled before hbefore := by
    have hparts : Quoting.afterAll .plain (before ++ sql).toList =
        (Quoting.afterAll .plain before.toList).afterAll sql.toList := by
      rw [String.toList_append]
      exact List.foldl_append
    rw [Settled, hparts, hbefore]
    exact afterAll_of_passes h.passes

end Placeholder

/-! ## Names and literals -/

namespace Identifier

theorem quote_eq_parts (name : String) : quote name = ".".intercalate ((parts name).map quotePart) := by
  rw [quote, parts, List.map_map]
  rfl

theorem parts_ne_nil (name : String) : parts name ≠ [] := by
  rw [parts, ne_eq, List.map_eq_nil_iff]
  exact (Text.splitAt_eq_iff.mp rfl).ne_nil

theorem qualified_eq_parts (table column : String) :
    qualified table column = ".".intercalate ([table, column].map quotePart) := by
  simp [qualified, String.intercalate_cons_cons]

theorem skipped_names (names : List String) (h : names ≠ []) :
    Skipped (".".intercalate (names.map quotePart)) := by
  obtain ⟨part, parts, rfl⟩ := List.exists_cons_of_ne_nil h
  refine .of_inert (.intercalate .dot fun sql hsql => ?_) ?_
  · obtain ⟨name, -, rfl⟩ := List.mem_map.mp hsql
    exact .quotePart name
  · cases parts <;> simp [String.intercalate_cons_cons, quotePart, enclosed]

/-- What names in quotes and literals are read as is what was written in them, whatever it is and whatever follows, and
the readers of placeholders pass over all of them. -/
theorem quotes_delimit (text column : String) :
    (∀ rest : List Char, rest.head? ≠ some '"' →
      unquoted? '"' ((quotePart text).toList ++ rest) = some (text.toList, rest)) ∧
    (∀ rest : List Char, rest.head? ≠ some '\'' →
      unquoted? '\'' ((literal text).toList ++ rest) = some (text.toList, rest)) ∧
    quote text = ".".intercalate ((parts text).map quotePart) ∧
    qualified text column = ".".intercalate ([text, column].map quotePart) ∧
    (∀ rest : List Char, rest.head? ≠ some '"' → rest.head? ≠ some '.' → ∀ names left,
      (Named ((quote text).toList ++ rest) names left ↔ names = parts text ∧ left = rest) ∧
      (Named ((qualified text column).toList ++ rest) names left ↔ names = [text, column] ∧ left = rest)) ∧
    ∀ sql ∈ [quotePart text, literal text, quote text, qualified text column], Skipped sql := by
  refine ⟨fun rest hrest => ?_, fun rest hrest => ?_, quote_eq_parts text, qualified_eq_parts text column,
    fun rest hquote hdot names left => ⟨?_, ?_⟩, ?_⟩
  · exact unquoted?_eq_some_iff.mpr ⟨by rw [quotePart, String.toList_ofList], hrest⟩
  · exact unquoted?_eq_some_iff.mpr ⟨by rw [literal, String.toList_ofList], hrest⟩
  · rw [quote_eq_parts]
    exact Named.quoted_iff hquote hdot (parts_ne_nil text)
  · rw [qualified_eq_parts]
    exact Named.quoted_iff hquote hdot (List.cons_ne_nil _ _)
  · simp only [List.forall_mem_cons]
    refine ⟨.of_inert (.quotePart text) ?_, .of_inert (.literal text) ?_, ?_, ?_, List.forall_mem_nil _⟩
    · simp [quotePart, enclosed]
    · simp [literal, enclosed]
    · exact quote_eq_parts text ▸ skipped_names _ (parts_ne_nil text)
    · exact qualified_eq_parts text column ▸ skipped_names _ (List.cons_ne_nil _ _)

/-- A name, a literal and a question behind a text that has both quotes, a mark and a number in it. -/
theorem quotes_delimit_injected :
    unquoted? '"' (quotePart "a\"?'.$1").toList = some ("a\"?'.$1".toList, []) ∧
    unquoted? '\'' ((literal "a\"?'.$1").toList ++ "=?".toList) = some ("a\"?'.$1".toList, "=?".toList) ∧
    Named ((quote "a\"?'.$1").toList ++ "=?".toList) ["a\"?'", "$1"] "=?".toList ∧
    number ("? = " ++ literal "a\"?'.$1" ++ ", ?") 8 = ("$8 = 'a\"?''.$1', $9", 2) ∧
    indices ("$8 = " ++ literal "a\"?'.$1" ++ ", $9") = [8, 9] := by
  obtain ⟨hname, hliteral, -, -, hnamed, hskipped⟩ := quotes_delimit "a\"?'.$1" "b"
  have hskip := hskipped (literal "a\"?'.$1") (by simp)
  refine ⟨?_, hliteral _ (by decide), ?_, ?_, ?_⟩
  · have hread := hname [] (by decide)
    rwa [List.append_nil] at hread
  · exact (hnamed "=?".toList (by decide) (by decide) _ _).1.mpr ⟨by decide, rfl⟩
  · rw [hskip.number _ _ _ (by decide)]
    decide +kernel
  · rw [hskip.indices _ _ (by decide)]
    decide

end Identifier

end SqlAdapter
