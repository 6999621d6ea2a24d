/-
Names that are cut to length.

What is kept of a name is its longest front within the bytes that the database has
for one (`Identifier.kept_iff`), so cutting once more changes nothing. A name of
two parts is cut as one, though the database has that many bytes for each part;
`Identifier.parts_truncate_two_iff` says when the parts come out of it as they do when
each is cut on its own.
-/
import SqlAdapter.Proofs.Text.Pieces
import SqlAdapter.Sql.Identifier

namespace SqlAdapter.Identifier

variable {cs front schema table : List Char} {m n : Nat} {name kept part : String}

/-! ## The longest front -/

theorem takeBytes_takeBytes (n : Nat) (cs : List Char) : takeBytes n (takeBytes n cs) = takeBytes n cs := by
  induction cs generalizing n with
  | nil => rfl
  | cons c cs ih =>
    by_cases h : c.utf8Size ≤ n
    · simp only [takeBytes, if_pos h, ih]
    · simp only [takeBytes, if_neg h]

theorem truncate_truncate (name : String) : truncate (truncate name) = truncate name := by
  simp only [truncate, String.toList_ofList, takeBytes_takeBytes]

/-- Characters in front that fit stay, and leave the rest of the room to those behind. -/
theorem takeBytes_append (front back : List Char) (n : Nat) (h : (String.ofList front).utf8ByteSize ≤ n) :
    takeBytes n (front ++ back) = front ++ takeBytes (n - (String.ofList front).utf8ByteSize) back := by
  induction front generalizing n with
  | nil => simp
  | cons c front ih =>
    rw [String.ofList_cons, String.utf8ByteSize_append, String.utf8ByteSize_singleton] at h ⊢
    rw [List.cons_append, takeBytes, if_pos (by omega), ih _ (by omega), List.cons_append, Nat.sub_sub]

theorem size_takeBytes_le (cs : List Char) (n : Nat) : (String.ofList (takeBytes n cs)).utf8ByteSize ≤ n := by
  induction cs generalizing n with
  | nil => simp [takeBytes]
  | cons c cs ih =>
    by_cases h : c.utf8Size ≤ n
    · have hrest := ih (n - c.utf8Size)
      rw [takeBytes, if_pos h, String.ofList_cons, String.utf8ByteSize_append, String.utf8ByteSize_singleton]
      omega
    · simp [takeBytes, h]

theorem takeBytes_front (n : Nat) (cs : List Char) : takeBytes n cs <+: cs := by
  induction cs generalizing n with
  | nil => exact List.nil_prefix
  | cons c cs ih =>
    rw [takeBytes]
    split
    · exact List.cons_prefix_cons.mpr ⟨rfl, ih _⟩
    · exact List.nil_prefix

/-- A front that fits is within what is taken. -/
theorem front_takeBytes (h : front <+: cs) (hsize : (String.ofList front).utf8ByteSize ≤ n) :
    front <+: takeBytes n cs := by
  obtain ⟨rest, rfl⟩ := h
  rw [takeBytes_append front rest n hsize]
  exact List.prefix_append _ _

theorem eq_of_front_of_front {xs ys : List Char} (h : xs <+: ys) (h' : ys <+: xs) : xs = ys :=
  h.eq_of_length_le h'.length_le

/-- What is taken with less room is what is taken with more, if that fits. -/
theorem takeBytes_eq_iff (h : m ≤ n) :
    takeBytes m cs = takeBytes n cs ↔ (String.ofList (takeBytes n cs)).utf8ByteSize ≤ m := by
  constructor
  · intro heq
    rw [← heq]
    exact size_takeBytes_le cs m
  · intro hsize
    exact eq_of_front_of_front
      (front_takeBytes (takeBytes_front m cs) (Nat.le_trans (size_takeBytes_le cs m) h))
      (front_takeBytes (takeBytes_front n cs) hsize)

/-- The names that are kept whole are those that have room. -/
theorem truncate_eq_self_iff {name : String} : truncate name = name ↔ name.utf8ByteSize ≤ maxBytes := by
  constructor
  · intro h
    have hsize := size_takeBytes_le name.toList maxBytes
    unfold truncate at h
    rwa [h] at hsize
  · intro h
    have hwhole := takeBytes_append name.toList [] maxBytes (by rwa [String.ofList_toList])
    rw [List.append_nil] at hwhole
    rw [truncate, hwhole, takeBytes, List.append_nil, String.ofList_toList]

/-- The longest front of a name that the database has room for. -/
structure Kept (name kept : String) : Prop where
  front : kept.toList <+: name.toList
  fits : kept.utf8ByteSize ≤ maxBytes
  longest : ∀ other : String, other.toList <+: name.toList → other.utf8ByteSize ≤ maxBytes →
    other.toList <+: kept.toList

theorem kept_truncate (name : String) : Kept name (truncate name) where
  front := by
    rw [truncate, String.toList_ofList]
    exact takeBytes_front maxBytes name.toList
  fits := size_takeBytes_le name.toList maxBytes
  longest := by
    intro other hfront hsize
    rw [truncate, String.toList_ofList]
    exact front_takeBytes hfront (by rwa [String.ofList_toList])

theorem kept_iff : Kept name kept ↔ kept = truncate name := by
  constructor
  · intro h
    have hcut := kept_truncate name
    exact String.toList_inj.mp (eq_of_front_of_front (hcut.longest kept h.front h.fits)
      (h.longest (truncate name) hcut.front hcut.fits))
  · rintro rfl
    exact kept_truncate name

/-! ## Names of several parts -/

/-- The parts of a name, between dots. -/
def parts (name : String) : List String := (Text.splitAt '.' name.toList).map String.ofList

theorem parts_ofList (cs : List Char) : parts (String.ofList cs) = (Text.splitAt '.' cs).map String.ofList := by
  rw [parts, String.toList_ofList]

/-- A part is no longer than the name. -/
theorem size_part_le (h : part ∈ parts name) : part.utf8ByteSize ≤ name.utf8ByteSize := by
  obtain ⟨piece, hpiece, rfl⟩ := List.mem_map.mp h
  obtain ⟨before, after, hwhole⟩ := Text.infix_of_mem_splitAt hpiece
  have hname : name = String.ofList before ++ String.ofList piece ++ String.ofList after := by
    rw [← String.ofList_append, ← String.ofList_append, hwhole, String.ofList_toList]
  rw [hname, String.utf8ByteSize_append, String.utf8ByteSize_append]
  omega

theorem splitAt_two (hschema : '.' ∉ schema) (htable : '.' ∉ table) :
    Text.splitAt '.' (schema ++ '.' :: table) = [schema, table] :=
  Text.splitAt_eq_iff.mpr ⟨by simp, by simp [hschema, htable], by simp⟩

theorem parts_one (h : '.' ∉ cs) : parts (String.ofList cs) = [String.ofList cs] := by
  rw [parts_ofList, Text.splitAt_singleton_iff.mpr h]
  rfl

theorem parts_two (hschema : '.' ∉ schema) (htable : '.' ∉ table) :
    parts (String.ofList (schema ++ '.' :: table)) = [String.ofList schema, String.ofList table] := by
  rw [parts_ofList, splitAt_two hschema htable]
  rfl

/-- A name of two parts has room when the first part, the dot and what is kept of the second part fit in one name. -/
def HasRoom : List String → Prop
  | [schema, table] => schema.utf8ByteSize + 1 + (truncate table).utf8ByteSize ≤ maxBytes
  | _ => True

instance : DecidablePred HasRoom
  | [schema, table] => inferInstanceAs (Decidable (schema.utf8ByteSize + 1 + (truncate table).utf8ByteSize ≤ maxBytes))
  | [] | [_] | _ :: _ :: _ :: _ => isTrue trivial

theorem not_mem_takeBytes {c : Char} (h : c ∉ cs) (n : Nat) : c ∉ takeBytes n cs :=
  fun hc => h ((takeBytes_front n cs).mem hc)

/-- Where the dot does not fit behind the first part, nothing behind that part is taken. -/
theorem takeBytes_before_dot (table : List Char) (h : n < (String.ofList schema).utf8ByteSize + 1) :
    takeBytes n (schema ++ '.' :: table) <+: schema := by
  have htaken := takeBytes_front n (schema ++ '.' :: table)
  rcases List.prefix_or_prefix_of_prefix htaken (List.prefix_append schema _) with hfront | ⟨more, hmore⟩
  · exact hfront
  · rw [← hmore] at htaken ⊢
    cases more with
    | nil => simp
    | cons c more =>
      have hsize := size_takeBytes_le (schema ++ '.' :: table) n
      have hc := Char.utf8Size_pos c
      rw [← hmore, String.ofList_append, String.ofList_cons, String.utf8ByteSize_append, String.utf8ByteSize_append,
        String.utf8ByteSize_singleton] at hsize
      omega

/-- Where the dot fits, it is taken, and what is behind it has the rest of the room. -/
theorem takeBytes_dotted (table : List Char) (h : (String.ofList schema).utf8ByteSize + 1 ≤ n) :
    takeBytes n (schema ++ '.' :: table) =
      schema ++ '.' :: takeBytes (n - ((String.ofList schema).utf8ByteSize + 1)) table := by
  have hdotted : (String.ofList (schema ++ ['.'])).utf8ByteSize = (String.ofList schema).utf8ByteSize + 1 := by
    rw [String.ofList_append, String.utf8ByteSize_append]
    rfl
  rw [List.append_cons, takeBytes_append _ _ _ (hdotted ▸ h), hdotted, ← List.append_cons]

/-- The parts of a name that is cut are its parts, each cut on its own, exactly when it has room. -/
theorem parts_truncate_two_iff (hschema : '.' ∉ schema) (htable : '.' ∉ table) :
    parts (truncate (String.ofList (schema ++ '.' :: table))) =
      [truncate (String.ofList schema), truncate (String.ofList table)] ↔
        HasRoom [String.ofList schema, String.ofList table] := by
  by_cases hdot : (String.ofList schema).utf8ByteSize + 1 ≤ maxBytes
  · have hwhole : truncate (String.ofList schema) = String.ofList schema := truncate_eq_self_iff.mpr (by omega)
    rw [hwhole]
    simp only [HasRoom, truncate, String.toList_ofList]
    rw [takeBytes_dotted table hdot, parts_two hschema (not_mem_takeBytes htable _)]
    simp only [List.cons.injEq, true_and, and_true, String.ofList_inj]
    rw [takeBytes_eq_iff (Nat.sub_le _ _)]
    omega
  · simp only [HasRoom, truncate, String.toList_ofList]
    have hbefore := takeBytes_before_dot table (Nat.lt_of_not_le hdot)
    have hone : '.' ∉ takeBytes maxBytes (schema ++ '.' :: table) := fun h => hschema (hbefore.mem h)
    rw [parts_one hone]
    exact iff_of_false (by simp) (by omega)

end SqlAdapter.Identifier
