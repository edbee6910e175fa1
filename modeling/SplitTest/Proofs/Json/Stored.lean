import SplitTest.CommandList

/-!
# The stored form of command lists

Reading a stored form gives back the list that was stored, whatever characters its lines
hold (`CommandList.ofStored_stored`).  Each layer of the writer is undone by the layer of
the reader at its side: characters, literals, items, arrays.
-/

namespace SplitTest

open SplitTest.Text

namespace Json

/-! ## Characters and literals -/

theorem zeroPadded_hexadecimal : ∀ n < 32, zeroPadded 4 (hexadecimal n) =
    ['0', '0', Nat.digitChar (n / 16), Nat.digitChar (n % 16)] := by
  decide

theorem unit?_digitChar : ∀ n < 32,
    unit? '0' '0' (Nat.digitChar (n / 16)) (Nat.digitChar (n % 16)) = some n := by
  decide

theorem readBody_unit {a b c d : Char} {n : Nat} (h : unit? a b c d = some n) (hn : n < 32)
    (s : List Char) :
    readBody ('\\' :: 'u' :: a :: b :: c :: d :: s) = consChar (Char.ofNat n) (readBody s) := by
  have hhigh : isHighSurrogate n = false := by
    simp only [isHighSurrogate, Bool.and_eq_false_iff, decide_eq_false_iff_not]
    omega
  have hlow : isLowSurrogate n = false := by
    simp only [isLowSurrogate, Bool.and_eq_false_iff, decide_eq_false_iff_not]
    omega
  rw [readBody, h]
  simp only [hhigh, hlow, Bool.false_eq_true, if_false]

theorem readBody_plain {c : Char} (hquote : c ≠ '"') (hback : c ≠ '\\') (hn : ¬c.toNat < 0x20)
    (s : List Char) : readBody (c :: s) = consChar c (readBody s) := by
  rw [readBody, if_neg hn]
  · exact hquote
  -- the patterns with a backslash do not match
  all_goals intros; contradiction

theorem eq_ofNat {c : Char} {n : Nat} (h : c.toNat = n) : c = Char.ofNat n := by
  rw [← h, Char.ofNat_toNat]

/-- **What is written for a character is read as that character.** -/
theorem readBody_encodeChar (c : Char) (s : List Char) :
    readBody (encodeChar c ++ s) = consChar c (readBody s) := by
  unfold encodeChar
  split
  · next h => subst h; rfl
  split
  · next h => subst h; rfl
  -- the short escapes of control characters
  split
  · next h => rw [eq_ofNat h]; rfl
  split
  · next h => rw [eq_ofNat h]; rfl
  split
  · next h => rw [eq_ofNat h]; rfl
  split
  · next h => rw [eq_ofNat h]; rfl
  split
  · next h => rw [eq_ofNat h]; rfl
  split
  · next h =>
    rw [zeroPadded_hexadecimal c.toNat h]
    have hread := readBody_unit (unit?_digitChar c.toNat h) h s
    rw [Char.ofNat_toNat] at hread
    exact hread
  · next hquote hback _ _ _ _ _ hn => exact readBody_plain hquote hback hn s

/-- **What is written for a text is read as that text.** -/
theorem readBody_encode (t rest : List Char) :
    readBody (t.flatMap encodeChar ++ '"' :: rest) = .ok (t, rest) := by
  induction t with
  | nil => rfl
  | cons c t ih =>
    rw [List.flatMap_cons, List.append_assoc, readBody_encodeChar, ih]
    rfl

/-! ## Items and arrays -/

theorem encode_append (t rest : List Char) :
    encode t ++ rest = '"' :: (t.flatMap encodeChar ++ '"' :: rest) := by
  simp only [encode, List.cons_append, List.append_assoc, List.nil_append]

theorem encodeItems_cons (t : List Char) (ss : List (List Char)) :
    ∃ body, encodeItems (t :: ss) = '"' :: body := by
  cases ss with
  | nil => exact ⟨_, rfl⟩
  | cons _ _ => exact ⟨_, rfl⟩

/-- The literals of a list are read one by one, if enough of them may be read. -/
theorem readItems_encodeItems (ss : List (List Char)) :
    ∀ (t : List Char) (fuel : Nat) (rest : List Char), ss.length < fuel →
      readItems fuel (encodeItems (t :: ss) ++ ']' :: rest) = .ok (t :: ss, rest) := by
  induction ss with
  | nil =>
    intro t fuel rest hfuel
    obtain ⟨fuel, rfl⟩ : ∃ n, fuel = n + 1 := ⟨fuel - 1, by simp at hfuel; omega⟩
    rw [encodeItems, encode_append, readItems, readBody_encode]
    rfl
  | cons u ss ih =>
    intro t fuel rest hfuel
    obtain ⟨fuel, rfl⟩ : ∃ n, fuel = n + 1 := ⟨fuel - 1, by simp at hfuel; omega⟩
    have hmore : ss.length < fuel := by
      rw [List.length_cons] at hfuel
      omega
    have hih := ih u fuel rest hmore
    -- behind the comma stands a quote, and neither space nor a bracket
    obtain ⟨body, hbody⟩ := encodeItems_cons u ss
    rw [encodeItems, List.append_assoc, encode_append, readItems, readBody_encode]
    rw [hbody] at hih ⊢
    show (readItems fuel ('"' :: body ++ ']' :: rest)).map _ = _
    rw [hih]
    rfl

theorem length_le_encodeItems (ss : List (List Char)) : ss.length ≤ (encodeItems ss).length := by
  induction ss with
  | nil => exact Nat.le_refl 0
  | cons t ss ih =>
    cases ss with
    | nil => simp [encodeItems, encode]
    | cons u ss =>
      simp only [encodeItems, List.length_append, List.length_cons] at ih ⊢
      omega

theorem readStrings_encodeStrings (ss : List (List Char)) :
    readStrings (encodeStrings ss) = .ok (ss, []) := by
  cases ss with
  | nil => rfl
  | cons t ss =>
    have hlength := length_le_encodeItems (t :: ss)
    have hread := readItems_encodeItems ss t (encodeItems (t :: ss) ++ [']']).length []
      (by rw [List.length_append]; rw [List.length_cons] at hlength; omega)
    obtain ⟨body, hbody⟩ := encodeItems_cons t ss
    rw [encodeStrings]
    rw [hbody] at hread ⊢
    exact hread

/-- **A written array is read as the texts that were written.** -/
theorem decodeStrings_encodeStrings (ss : List (List Char)) :
    decodeStrings (encodeStrings ss) = .ok ss := by
  rw [decodeStrings, readWhole, readStrings_encodeStrings]
  rfl

theorem trim_encodeStrings (ss : List (List Char)) :
    trim (encodeStrings ss) = encodeStrings ss := by
  have hstart : trimStart (encodeStrings ss) = encodeStrings ss := rfl
  have hend : trimEnd (encodeStrings ss) = encodeStrings ss := by
    rw [trimEnd, encodeStrings, List.reverse_concat, List.dropWhile_cons_of_neg (by decide),
      List.reverse_cons, List.reverse_reverse]
  rw [trim, hstart, hend]

end Json

/-- **A stored command list is read as the list that was stored.** -/
theorem CommandList.ofStored_stored (l : CommandList) : ofStored l.stored = .ok l := by
  rw [ofStored, stored, String.toList_ofList, Json.trim_encodeStrings,
    Json.decodeStrings_encodeStrings]
  have hlines : (l.lines.map String.toList).map String.ofList = l.lines := by
    rw [List.map_map]
    exact List.map_id'' (fun _ => String.ofList_toList) l.lines
  show Except.ok (CommandList.mk ((l.lines.map String.toList).map String.ofList)) = _
  rw [hlines]

end SplitTest
