import SplitTest.Command
import SplitTest.Proofs.Text.Pieces
import Mathlib.Data.List.Basic
import Mathlib.Data.Set.Function

/-!
# The grammar of command lines

A verb leads a line when its word stands before the first comma, or is the whole line.  Lines
that a verb leads need the fields of that verb (`Command.IsReadable`), and no other line can
be malformed.  On the side of commands only the last field may hold commas, and a raw line
must not be led by a verb (`Command.IsWritable`).

Reading fails on exactly the lines that are not readable (`Command.parse_eq_error_iff`), and
answers on the others the one writable command that is written so
(`Command.parse_eq_ok_iff`).
-/

namespace SplitTest

open Text

namespace Verb

/-- The word before the first comma of a line, or the whole line, is that of the verb. -/
def Leads (v : Verb) (line : String) : Prop := before ',' line.toList = v.token.toList

instance (v : Verb) (line : String) : Decidable (v.Leads line) :=
  inferInstanceAs (Decidable (_ = _))

theorem not_mem_token (v : Verb) : ',' ∉ v.token.toList := by
  cases v <;> decide

theorem mem_all (v : Verb) : v ∈ all := by
  cases v <;> decide

/-- A word is that of the verb it is looked up as, and of no other. -/
theorem ofToken?_eq_some_iff {s : List Char} {v : Verb} :
    ofToken? s = some v ↔ s = v.token.toList := by
  constructor
  · intro h
    have hv := List.find?_some (p := fun v : Verb => v.token.toList == s) h
    exact (beq_iff_eq.mp hv).symm
  · rintro rfl
    cases v <;> rfl

theorem ofToken?_eq_none_iff {s : List Char} :
    ofToken? s = none ↔ ∀ v : Verb, s ≠ v.token.toList := by
  rw [ofToken?, List.find?_eq_none]
  constructor
  · intro h v e
    exact h v (mem_all v) (beq_iff_eq.mpr e.symm)
  · intro h v _ e
    exact h v (beq_iff_eq.mp e).symm

/-- A verb is a field, and needs another. -/
theorem exists_fieldCount_eq (v : Verb) : ∃ n, v.fieldCount = n + 2 := by
  cases v
  all_goals exact ⟨_, rfl⟩

end Verb

namespace Command

/-- Number of comma-separated fields of a line. -/
def fieldsIn (line : String) : Nat := line.toList.count ',' + 1

/-- The line has the fields that are needed by the verb that leads it, if one does. -/
def IsReadable (line : String) : Prop := ∀ v : Verb, v.Leads line → v.fieldCount ≤ fieldsIn line

/-- The command can be told from its line. -/
structure IsWritable (c : Command) : Prop where
  /-- No field but the last holds a comma. -/
  fields : ∀ f ∈ c.fields.dropLast, ',' ∉ f.toList
  /-- No verb leads a raw line. -/
  raw : ∀ text, c = .unknown text → ∀ v : Verb, ¬v.Leads text

/-! ## Fields -/

/-- **The command of a verb and its fields** is the one that has them. -/
theorem ofFields?_eq_some_iff {v : Verb} {fields : List String} {c : Command} :
    ofFields? v fields = some c ↔ c.verb? = some v ∧ c.fields = fields := by
  constructor
  · intro h
    unfold ofFields? at h
    split at h
    all_goals cases h
    all_goals exact ⟨rfl, rfl⟩
  · rintro ⟨hv, rfl⟩
    cases c with
    | unknown raw => cases hv
    | _ =>
      obtain rfl := Option.some.inj hv
      rfl

/-- As many fields as a verb needs make a command. -/
theorem exists_ofFields? {v : Verb} {fields : List String}
    (h : fields.length + 1 = v.fieldCount) : ∃ c, ofFields? v fields = some c := by
  have hlength (n : Nat) (hv : v.fieldCount = n + 1) : fields.length = n := by omega
  cases v with
  | cfg | httpHeader =>
    obtain ⟨name, value, rfl⟩ := List.length_eq_two.mp (hlength 2 rfl)
    exact ⟨_, rfl⟩
  | forcedPluginSetting =>
    obtain ⟨plugin, name, value, rfl⟩ := List.length_eq_three.mp (hlength 3 rfl)
    exact ⟨_, rfl⟩
  | errorLog | jsHeader | jsFooter =>
    obtain ⟨text, rfl⟩ := List.length_eq_one_iff.mp (hlength 1 rfl)
    exact ⟨_, rfl⟩

theorem length_fields {c : Command} {v : Verb} (h : c.verb? = some v) :
    c.fields.length + 1 = v.fieldCount := by
  cases c with
  | unknown raw => cases h
  | _ =>
    obtain rfl := Option.some.inj h
    rfl

/-- The verb and the fields of a command, joined by commas, are its line. -/
theorem toList_line {c : Command} {v : Verb} (h : c.verb? = some v) :
    c.line.toList = [','].intercalate (v.token.toList :: c.fields.map String.toList) := by
  rw [line, h, String.toList_ofList]

theorem line_unknown (raw : String) : (unknown raw).line = raw := by
  show String.ofList ([','].intercalate [raw.toList]) = raw
  rw [List.intercalate_singleton, String.ofList_toList]

/-! ## Reading -/

section
variable {line : String} {v : Verb}

theorem parse_of_no_verb (h : ∀ v : Verb, ¬v.Leads line) : parse line = .ok (unknown line) := by
  rw [parse, Verb.ofToken?_eq_none_iff.mpr h]

/-- **A line with a verb and the fields that it needs** is read as the command that has these
fields: the line cut at its first commas. -/
theorem parse_of_le (hv : v.Leads line) (h : v.fieldCount ≤ fieldsIn line) :
    ∃ c, parse line = .ok c ∧ c.verb? = some v ∧
      v.token.toList :: c.fields.map String.toList = piecesUpTo ',' v.fieldCount line.toList := by
  obtain ⟨n, hn⟩ := v.exists_fieldCount_eq
  have hlength := @length_piecesUpTo ',' v.fieldCount line.toList
  have hhead := @head?_piecesUpTo ',' n line.toList
  rw [← hn, hv] at hhead
  cases hps : piecesUpTo ',' v.fieldCount line.toList with
  | nil =>
    rw [hps] at hhead
    cases hhead
  | cons p ps =>
    rw [hps] at hlength hhead
    obtain rfl := Option.some.inj hhead
    have hneeded : (ps.map String.ofList).length + 1 = v.fieldCount := by
      rw [List.length_cons, ← fieldsIn] at hlength
      rw [List.length_map, hlength]
      omega
    obtain ⟨c, hc⟩ := exists_ofFields? hneeded
    refine ⟨c, ?_, (ofFields?_eq_some_iff.mp hc).1, ?_⟩
    · rw [parse, Verb.ofToken?_eq_some_iff.mpr hv]
      simp only [hps, List.tail_cons, hc]
    · rw [(ofFields?_eq_some_iff.mp hc).2, List.map_map]
      refine congrArg (List.cons _) ((List.map_congr_left fun q _ => ?_).trans (List.map_id ps))
      exact String.toList_ofList

/-- **A line with a verb and too few fields is malformed.** -/
theorem parse_of_lt (hv : v.Leads line) (h : fieldsIn line < v.fieldCount) :
    parse line = .error ⟨v, fieldsIn line⟩ := by
  have hlength := @length_piecesUpTo ',' v.fieldCount line.toList
  rw [← fieldsIn, Nat.min_eq_right (by omega)] at hlength
  have hnone : ofFields? v ((piecesUpTo ',' v.fieldCount line.toList).tail.map String.ofList) =
      none := by
    rw [Option.eq_none_iff_forall_ne_some]
    intro c hc
    obtain ⟨hverb, hfields⟩ := ofFields?_eq_some_iff.mp hc
    have hneeded := length_fields hverb
    rw [hfields, List.length_map, List.length_tail, hlength, fieldsIn] at hneeded
    rw [fieldsIn] at h
    omega
  rw [parse, Verb.ofToken?_eq_some_iff.mpr hv]
  simp only [hnone, hlength]

/-- **What is read is written as the line**, and can be told from it. -/
theorem exists_parse_of_isReadable (h : IsReadable line) :
    ∃ c, parse line = .ok c ∧ c.line = line ∧ c.IsWritable := by
  by_cases hled : ∃ v : Verb, v.Leads line
  · obtain ⟨v, hv⟩ := hled
    obtain ⟨c, hparse, hverb, hpieces⟩ := parse_of_le hv (h v hv)
    obtain ⟨n, hn⟩ := v.exists_fieldCount_eq
    refine ⟨c, hparse, ?_, ⟨fun f hf => ?_, ?_⟩⟩
    · refine String.toList_inj.mp ?_
      rw [toList_line hverb, hpieces, hn, intercalate_piecesUpTo]
    · -- the fields but the last are among the pieces but the last
      refine not_mem_of_mem_dropLast_piecesUpTo v.fieldCount line.toList f.toList ?_
      have hne : c.fields.map String.toList ≠ [] := by
        rintro hnil
        rw [List.map_eq_nil_iff.mp hnil] at hf
        cases hf
      rw [← hpieces, List.dropLast_cons_of_ne_nil hne, ← List.map_dropLast]
      exact List.mem_cons_of_mem _ (List.mem_map_of_mem hf)
    · rintro text rfl
      cases hverb
  · have hraw (v : Verb) : ¬v.Leads line := fun hv => hled ⟨v, hv⟩
    refine ⟨_, parse_of_no_verb hraw, line_unknown line, ⟨?_, ?_⟩⟩
    · rintro f ⟨⟩
    · rintro text ⟨⟩
      exact hraw

/-- A line that is not readable is led by a verb that needs more fields. -/
theorem exists_leads_of_not_isReadable (h : ¬IsReadable line) :
    ∃ v : Verb, v.Leads line ∧ fieldsIn line < v.fieldCount := by
  by_contra hnone
  exact h fun v hv => Nat.le_of_not_lt fun hlt => hnone ⟨v, hv, hlt⟩

end

/-! ## Writing -/

/-- **What is written of a command is read as that command**, if it can be told from its
line. -/
theorem parse_line {c : Command} (h : c.IsWritable) : parse c.line = .ok c := by
  cases hverb : c.verb? with
  | none =>
    cases c with
    | unknown raw =>
      rw [line_unknown]
      exact parse_of_no_verb (h.raw raw rfl)
    | _ => cases hverb
  | some v =>
    have hline := toList_line hverb
    have hlength := length_fields hverb
    obtain ⟨n, hn⟩ := v.exists_fieldCount_eq
    obtain ⟨f, fs, hfields⟩ : ∃ f fs, c.fields = f :: fs :=
      List.exists_cons_of_length_pos (by omega)
    have hleads : v.Leads c.line := by
      rw [Verb.Leads, hline, hfields, List.map_cons, List.intercalate_cons_cons,
        List.append_assoc, List.singleton_append]
      exact before_append v.not_mem_token _
    have hpieces : piecesUpTo ',' v.fieldCount c.line.toList =
        v.token.toList :: c.fields.map String.toList := by
      rw [hline, ← hlength, ← List.length_map String.toList, ← List.length_cons]
      refine piecesUpTo_intercalate fun p hp => ?_
      rw [hfields, List.map_cons, List.dropLast_cons_cons, ← List.map_cons, ← hfields,
        ← List.map_dropLast] at hp
      rcases List.mem_cons.mp hp with rfl | hp
      · exact v.not_mem_token
      · obtain ⟨g, hg, rfl⟩ := List.mem_map.mp hp
        exact h.fields g hg
    have hread : ofFields? v ((c.fields.map String.toList).map String.ofList) = some c := by
      refine ofFields?_eq_some_iff.mpr ⟨hverb, ?_⟩
      rw [List.map_map]
      exact ((List.map_congr_left fun g _ => String.ofList_toList).trans (List.map_id _)).symm
    rw [parse, Verb.ofToken?_eq_some_iff.mpr hleads]
    simp only [hpieces, List.tail_cons, hread]

/-- **Reading answers the one writable command that is written as the line.** -/
theorem parse_eq_ok_iff {line : String} {c : Command} :
    parse line = .ok c ↔ c.IsWritable ∧ c.line = line := by
  constructor
  · intro hc
    by_cases h : IsReadable line
    · obtain ⟨c', hc', hline, hw⟩ := exists_parse_of_isReadable h
      obtain rfl := Except.ok.inj (hc'.symm.trans hc)
      exact ⟨hw, hline⟩
    · obtain ⟨v, hv, hlt⟩ := exists_leads_of_not_isReadable h
      rw [parse_of_lt hv hlt] at hc
      cases hc
  · rintro ⟨hw, rfl⟩
    exact parse_line hw

/-- **Reading fails for want of fields alone.** -/
theorem parse_eq_error_iff {line : String} {fault : MalformedCommand} :
    parse line = .error fault ↔ fault.verb.Leads line ∧
      fieldsIn line < fault.verb.fieldCount ∧ fault.found = fieldsIn line := by
  constructor
  · intro hfault
    by_cases h : IsReadable line
    · obtain ⟨c, hc, -⟩ := exists_parse_of_isReadable h
      rw [hc] at hfault
      cases hfault
    · obtain ⟨v, hv, hlt⟩ := exists_leads_of_not_isReadable h
      rw [parse_of_lt hv hlt] at hfault
      obtain rfl := Except.error.inj hfault
      exact ⟨hv, hlt, rfl⟩
  · obtain ⟨v, found⟩ := fault
    rintro ⟨hv, hlt, rfl⟩
    exact parse_of_lt hv hlt

theorem isReadable_of_parse {line : String} {c : Command} (h : parse line = .ok c) :
    IsReadable line := by
  by_contra hnot
  obtain ⟨v, hv, hlt⟩ := exists_leads_of_not_isReadable hnot
  rw [parse_of_lt hv hlt] at h
  cases h

/-- **The last field is all that follows the commas before it**, its own commas included. -/
theorem exists_last_field {c : Command} {v : Verb} (h : c.IsWritable) (hverb : c.verb? = some v) :
    ∃ front last, c.fields.getLast? = some last ∧ c.line.toList = front ++ ',' :: last.toList ∧
      front.count ',' + 2 = v.fieldCount := by
  have hlength := length_fields hverb
  obtain ⟨n, hn⟩ := v.exists_fieldCount_eq
  have hne : c.fields ≠ [] := List.ne_nil_of_length_pos (by omega)
  have hfields := List.dropLast_concat_getLast hne
  have hfront : ∀ p ∈ v.token.toList :: c.fields.dropLast.map String.toList, ',' ∉ p := by
    refine List.forall_mem_cons.mpr ⟨v.not_mem_token, fun p hp => ?_⟩
    obtain ⟨f, hf, rfl⟩ := List.mem_map.mp hp
    exact h.fields f hf
  refine ⟨[','].intercalate (v.token.toList :: c.fields.dropLast.map String.toList),
    c.fields.getLast hne, List.getLast?_eq_some_getLast hne, ?_, ?_⟩
  · rw [toList_line hverb]
    conv_lhs => rw [← hfields]
    rw [List.map_append, ← List.cons_append]
    rw [intercalate_append (List.cons_ne_nil _ _) (by simp), List.map_singleton,
      List.intercalate_singleton]
  · have hcount := count_intercalate (List.cons_ne_nil _ _) hfront
    rw [List.length_cons, List.length_map, List.length_dropLast] at hcount
    omega

/-- **The grammar of command lines.**  A line that a verb leads is refused if it has fewer
fields than the verb needs, and every other line is read as a command that is written so,
character for character.  What is written of a command is read as the same command, if its
fields but the last hold no comma and no verb leads it where it has none.  So reading is a
bijection between such lines and such commands, and the last field keeps its commas. -/
theorem line_grammar :
    (∀ (line : String) (v : Verb), v.Leads line → fieldsIn line < v.fieldCount →
      ∃ fault, parse line = .error fault ∧ fault.verb = v ∧ fault.found = fieldsIn line ∧
        fault.message = "malformed " ++ v.token ++ " command: expected " ++ ofNat v.fieldCount
          ++ " fields, found " ++ ofNat (fieldsIn line)) ∧
    (∀ line : String, IsReadable line → ∃ c, parse line = .ok c ∧ c.line = line) ∧
    (∀ c : Command, c.IsWritable → parse c.line = .ok c) ∧
    Set.BijOn parse {line | IsReadable line} (Except.ok '' {c | c.IsWritable}) ∧
    (∀ (line : String) (c : Command) (v : Verb), parse line = .ok c → c.verb? = some v →
      ∃ front last, c.fields.getLast? = some last ∧ line.toList = front ++ ',' :: last.toList ∧
        front.count ',' + 2 = v.fieldCount) := by
  refine ⟨fun line v hv hlt => ⟨_, parse_of_lt hv hlt, rfl, rfl, rfl⟩, fun line h => ?_,
    fun c => parse_line, ⟨fun line h => ?_, fun line h line' h' e => ?_, ?_⟩,
    fun line c v hc hverb => ?_⟩
  · obtain ⟨c, hc, hline, -⟩ := exists_parse_of_isReadable h
    exact ⟨c, hc, hline⟩
  · obtain ⟨c, hc, -, hw⟩ := exists_parse_of_isReadable h
    exact ⟨c, hw, hc.symm⟩
  · -- both lines are the line of the command that they are read as
    obtain ⟨c, hc, hline, -⟩ := exists_parse_of_isReadable h
    obtain ⟨-, hline'⟩ := parse_eq_ok_iff.mp (e.symm.trans hc)
    exact hline.symm.trans hline'
  · rintro _ ⟨c, hw, rfl⟩
    exact ⟨c.line, isReadable_of_parse (parse_line hw), parse_line hw⟩
  · obtain ⟨hw, rfl⟩ := parse_eq_ok_iff.mp hc
    exact exists_last_field hw hverb

end Command

end SplitTest
