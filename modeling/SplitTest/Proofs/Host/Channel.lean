import SplitTest.Proofs.CommandGrammar
import SplitTest.Proofs.Host.Batch

/-!
# Channels

Commands reach a host through four channels: the configuration together with the warnings
about refused writes, the headers, the errors of the log, and the scripts of the page.  Each
verb has one channel.  A line leaves the channels of other verbs as they are
(`content_applyLine_of_ne`), and reads nothing but its own (`applyLine_congr`).

So the lines of a list on one channel do there what they do without the others, and the same
becomes of each (`Host.applyLines_filter_channel`).  Lines of different channels can be told
in any order.
-/

namespace SplitTest

open SplitTest.Text

/-- A part of the host that some verbs write. -/
inductive Channel where
  /-- The configuration, and the warnings about refused writes. -/
  | config
  /-- The headers of the response. -/
  | headers
  /-- The errors of the site's log. -/
  | errors
  /-- The scripts of the page. -/
  | scripts
deriving DecidableEq, Repr

/-- The channel of a verb. -/
def Verb.channel : Verb → Channel
  | cfg | forcedPluginSetting => .config
  | httpHeader => .headers
  | errorLog => .errors
  | jsHeader | jsFooter => .scripts

/-- The verb that a line starts with, whether it can be read or not. -/
def Verb.ofLine? (line : String) : Option Verb := ofToken? (before ',' line.toList)

/-- The channel of a command, none for a line without a known verb. -/
def Command.channel? (c : Command) : Option Channel := c.verb?.map Verb.channel

namespace Channel

/-- The channel of a line, none for a line without a known verb. -/
def ofLine? (line : String) : Option Channel := (Verb.ofLine? line).map Verb.channel

/-- What a channel holds. -/
abbrev Content : Channel → Type
  | config => SiteConfig × List String
  | headers => HeaderBuffer
  | errors => List String
  | scripts => ScriptRegistry

/-- What a host holds on a channel. -/
def content : (ch : Channel) → Host → ch.Content
  | config, h => (h.config, h.log.warnings)
  | headers, h => h.headers
  | errors, h => h.log.errors
  | scripts, h => h.scripts

/-- A host is its session and what it holds on its channels. -/
theorem host_ext {h h' : Host} (hsession : h.session = h'.session)
    (hcontent : ∀ ch : Channel, ch.content h = ch.content h') : h = h' := by
  obtain ⟨session, config, headers, ⟨warnings, errors⟩, scripts⟩ := h
  obtain ⟨session', config', headers', ⟨warnings', errors'⟩, scripts'⟩ := h'
  obtain ⟨hconfig, hwarnings⟩ := Prod.mk.inj (hcontent .config)
  have hheaders : headers = headers' := hcontent .headers
  have herrors : errors = errors' := hcontent .errors
  have hscripts : scripts = scripts' := hcontent .scripts
  subst hsession hconfig hwarnings hheaders herrors hscripts
  rfl

end Channel

/-! ## Reading keeps the verb -/

namespace Command

/-- **A line is read as a command of its verb**, or is malformed with it. -/
theorem verb?_of_parse {line : String} :
    (∀ c, parse line = .ok c → c.verb? = Verb.ofLine? line) ∧
      ∀ fault, parse line = .error fault → Verb.ofLine? line = some fault.verb := by
  unfold parse Verb.ofLine?
  cases Verb.ofToken? (before ',' line.toList) with
  | none => exact ⟨by rintro c ⟨⟩; rfl, by rintro fault ⟨⟩⟩
  | some v =>
    dsimp only
    split
    · next c hc =>
      refine ⟨?_, by rintro fault ⟨⟩⟩
      rintro _ ⟨⟩
      exact (ofFields?_eq_some_iff.mp hc).1
    · exact ⟨by rintro c ⟨⟩, by rintro fault ⟨⟩; rfl⟩

theorem channel?_of_parse {line : String} {c : Command} (h : parse line = .ok c) :
    c.channel? = Channel.ofLine? line := by
  rw [channel?, verb?_of_parse.1 c h, Channel.ofLine?]

end Command

/-! ## One line -/

namespace Host
variable {h h' : Host} {x line : String} {ch : Channel}

/-- **A command leaves the channels of other verbs.** -/
theorem content_apply_of_ne {c : Command} (hch : c.channel? ≠ some ch) :
    ch.content (h.apply x c).1 = ch.content h := by
  have hqueue (p : ScriptPosition) (body : String) (hne : ch ≠ .scripts) :
      ch.content (h.queueScript p x body).1 = ch.content h := by
    cases ch with
    | scripts => exact absurd rfl hne
    | _ => simp only [queueScript]; split <;> rfl
  cases c with
  | cfg name value =>
    cases ch with
    | config => exact absurd rfl hch
    | _ => simp only [apply]; split <;> rfl
  | forcedPluginSetting p name value =>
    cases ch with
    | config => exact absurd rfl hch
    | _ => simp only [apply]; split <;> rfl
  | httpHeader name value =>
    cases ch with
    | headers => exact absurd rfl hch
    | _ => simp only [apply]; split <;> rfl
  | errorLog message =>
    cases ch with
    | errors => exact absurd rfl hch
    | _ => rfl
  | jsHeader body => exact hqueue .header body (by rintro rfl; exact hch rfl)
  | jsFooter body => exact hqueue .footer body (by rintro rfl; exact hch rfl)
  | unknown raw => rfl

/-- **A command reads nothing but its channel.** -/
theorem apply_congr {c : Command} (hch : c.channel? = some ch)
    (hcontent : ch.content h = ch.content h') :
    (h.apply x c).2 = (h'.apply x c).2 ∧
      ch.content (h.apply x c).1 = ch.content (h'.apply x c).1 := by
  have hqueue (p : ScriptPosition) (body : String) (hscripts : h.scripts = h'.scripts) :
      (h.queueScript p x body).2 = (h'.queueScript p x body).2 ∧
        (h.queueScript p x body).1.scripts = (h'.queueScript p x body).1.scripts := by
    simp only [queueScript, hscripts]
    split
    · exact ⟨rfl, hscripts⟩
    · exact ⟨rfl, rfl⟩
  have hwrite (k : ConfigKey) (value : String)
      (hconfig : Channel.config.content h = Channel.config.content h') :
      (h.apply x (k.command value)).2 = (h'.apply x (k.command value)).2 ∧
        Channel.config.content (h.apply x (k.command value)).1 =
          Channel.config.content (h'.apply x (k.command value)).1 := by
    obtain ⟨hconfig, hwarnings⟩ := Prod.mk.inj hconfig
    rw [apply_command, apply_command, hconfig]
    split
    · exact ⟨rfl, Prod.ext hconfig (congrArg (· ++ [_]) hwarnings)⟩
    · exact ⟨rfl, Prod.ext rfl hwarnings⟩
  cases c with
  | cfg name value =>
    obtain rfl := Option.some.inj hch
    exact hwrite (.site name) value hcontent
  | forcedPluginSetting p name value =>
    obtain rfl := Option.some.inj hch
    exact hwrite (.plugin p name) value hcontent
  | httpHeader name value =>
    obtain rfl := Option.some.inj hch
    have hheaders : h.headers = h'.headers := hcontent
    simp only [apply, hheaders]
    split
    · exact ⟨rfl, rfl⟩
    · exact ⟨rfl, hheaders⟩
  | errorLog message =>
    obtain rfl := Option.some.inj hch
    have herrors : h.log.errors = h'.log.errors := hcontent
    exact ⟨rfl, congrArg (· ++ [message]) herrors⟩
  | jsHeader body =>
    obtain rfl := Option.some.inj hch
    exact hqueue .header body hcontent
  | jsFooter body =>
    obtain rfl := Option.some.inj hch
    exact hqueue .footer body hcontent
  | unknown raw => cases hch

/-- **A line leaves the channels of other verbs.** -/
theorem content_applyLine_of_ne (hch : Channel.ofLine? line ≠ some ch) :
    ch.content (h.applyLine x line).1 = ch.content h := by
  unfold applyLine
  cases hparse : Command.parse line with
  | error fault => rfl
  | ok c =>
    rw [← Command.channel?_of_parse hparse] at hch
    exact content_apply_of_ne hch

/-- **A line reads nothing but its channel.** -/
theorem applyLine_congr (hch : Channel.ofLine? line = some ch)
    (hcontent : ch.content h = ch.content h') :
    (h.applyLine x line).2 = (h'.applyLine x line).2 ∧
      ch.content (h.applyLine x line).1 = ch.content (h'.applyLine x line).1 := by
  unfold applyLine
  cases hparse : Command.parse line with
  | error fault => exact ⟨rfl, hcontent⟩
  | ok c =>
    rw [← Command.channel?_of_parse hparse] at hch
    exact apply_congr hch hcontent

/-- A line without a known verb does nothing. -/
theorem applyLine_of_no_channel (hline : Channel.ofLine? line = none) :
    h.applyLine x line = (h, .ignored) := by
  rw [Channel.ofLine?, Option.map_eq_none_iff] at hline
  unfold applyLine
  cases hparse : Command.parse line with
  | error fault =>
    rw [Command.verb?_of_parse.2 fault hparse] at hline
    cases hline
  | ok c =>
    have hverb := Command.verb?_of_parse.1 c hparse
    rw [hline] at hverb
    cases c with
    | unknown raw => rfl
    | _ => cases hverb

/-- After the response was sent, a line leaves its headers, and one that is to add a header
is rejected. -/
theorem applyLine_of_sent (hsent : h.headers.sent = true) :
    (h.applyLine x line).1.headers = h.headers ∧
      ∀ name value, Command.parse line = .ok (.httpHeader name value) →
        (h.applyLine x line).2 = .rejected (.headersAlreadySent name) := by
  have hnone (name value : String) : h.headers.emit? name value = none := if_pos hsent
  by_cases hch : Channel.ofLine? line = some .headers
  · unfold applyLine
    cases hparse : Command.parse line with
    | error fault => exact ⟨rfl, by rintro name value ⟨⟩⟩
    | ok c =>
      rw [← Command.channel?_of_parse hparse] at hch
      cases c with
      | httpHeader name value =>
        have hrun : h.apply x (.httpHeader name value) =
            (h, .rejected (.headersAlreadySent name)) := by
          simp only [apply, hnone]
        refine ⟨congrArg (fun run => run.1.headers) hrun, ?_⟩
        rintro _ _ ⟨⟩
        exact congrArg Prod.snd hrun
      | _ => cases hch
  · refine ⟨content_applyLine_of_ne hch, fun name value hparse => ?_⟩
    rw [← Command.channel?_of_parse hparse] at hch
    exact absurd rfl hch

/-! ## Lists -/

/-- **The lines of a list on one channel run as if there were no others.** -/
theorem applyLines_filter_channel (lines : List String) :
    ∀ {h h' : Host}, ch.content h = ch.content h' →
      ((h.applyLines x lines).2.filter fun o => Channel.ofLine? o.1 = some ch) =
          (h'.applyLines x (lines.filter fun line => Channel.ofLine? line = some ch)).2 ∧
        ch.content (h.applyLines x lines).1 = ch.content
          (h'.applyLines x (lines.filter fun line => Channel.ofLine? line = some ch)).1 := by
  induction lines with
  | nil => exact fun hcontent => ⟨rfl, hcontent⟩
  | cons line lines ih =>
    intro h h' hcontent
    by_cases hch : Channel.ofLine? line = some ch
    · obtain ⟨houtcome, hleft⟩ := applyLine_congr (x := x) hch hcontent
      obtain ⟨houtcomes, hend⟩ := ih hleft
      refine ⟨?_, ?_⟩
      · simp only [applyLines, List.filter_cons, hch, decide_true, if_true, houtcome, houtcomes]
      · simp only [applyLines, List.filter_cons, hch, decide_true, if_true, hend]
    · obtain ⟨houtcomes, hend⟩ := ih ((content_applyLine_of_ne (x := x) hch).trans hcontent)
      simp only [applyLines, List.filter_cons, hch, decide_false, Bool.false_eq_true, if_false]
      exact ⟨houtcomes, hend⟩

/-- What a list leaves of a channel depends on nothing but what it found there. -/
theorem content_applyLines_congr (lines : List String) (hcontent : ch.content h = ch.content h') :
    ch.content (h.applyLines x lines).1 = ch.content (h'.applyLines x lines).1 :=
  (applyLines_filter_channel lines hcontent).2.trans (applyLines_filter_channel lines rfl).2.symm

/-- **What a batch leaves of a channel** depends on nothing but what it found there. -/
theorem content_carryOut_congr (batch : Batch) : ∀ {h h' : Host}, ch.content h = ch.content h' →
    ch.content (h.carryOut batch) = ch.content (h'.carryOut batch) := by
  induction batch with
  | nil => exact id
  | cons part batch ih => exact fun hcontent => ih (content_applyLines_congr part.2.lines hcontent)

/-- Lines without a known verb are ignored wherever they stand. -/
theorem applyLines_filter_no_channel (lines : List String) :
    ∀ h h' : Host, ((h.applyLines x lines).2.filter fun o => Channel.ofLine? o.1 = none) =
      (h'.applyLines x (lines.filter fun line => Channel.ofLine? line = none)).2 := by
  induction lines with
  | nil => exact fun h h' => rfl
  | cons line lines ih =>
    intro h h'
    by_cases hline : Channel.ofLine? line = none
    · simp only [applyLines, List.filter_cons, hline, decide_true, if_true,
        applyLine_of_no_channel hline, ih h h']
    · simp only [applyLines, List.filter_cons, hline, decide_false, Bool.false_eq_true, if_false]
      exact ih _ h'

theorem applyLines_append (lines lines' : List String) :
    ∀ h : Host, h.applyLines x (lines ++ lines') =
      (((h.applyLines x lines).1.applyLines x lines').1,
        (h.applyLines x lines).2 ++ ((h.applyLines x lines).1.applyLines x lines').2) := by
  induction lines with
  | nil => exact fun h => rfl
  | cons line lines ih =>
    intro h
    simp only [List.cons_append, applyLines, ih]

/-- **Lists one after another are one list**, with one report. -/
theorem execute_append (h : Host) (x : String) (l l' : CommandList) :
    h.execute x ⟨l.lines ++ l'.lines⟩ =
      (((h.execute x l).1.execute x l').1,
        (h.execute x l).2.merge ((h.execute x l).1.execute x l').2) := by
  refine Prod.ext ?_ ?_
  · simp only [execute_fst, applyLines_append]
  · simp only [execute_snd, execute_fst, applyLines_append, List.map_append,
      ExecutionReport.ofLineRuns_append]

end Host

/-- The lines of a list on a channel, or without a known verb. -/
def CommandList.onChannel (l : CommandList) (g : Option Channel) : CommandList :=
  ⟨l.lines.filter fun line => Channel.ofLine? line = g⟩

namespace Host

/-- **How what a list does comes apart by channel.** -/
structure ByChannel (h : Host) (x : String) (l : CommandList) : Prop where
  /-- Each channel is left as by the lines on it alone. -/
  content : ∀ ch : Channel,
    ch.content (h.execute x l).1 = ch.content (h.execute x (l.onChannel (some ch))).1
  /-- Beside the channels there is the session, which stays. -/
  session : (h.execute x l).1.session = h.session
  /-- The same becomes of each line as without the lines of other channels. -/
  outcomes : ∀ g : Option Channel,
    ((h.applyLines x l.lines).2.filter fun o => Channel.ofLine? o.1 = g) =
      (h.applyLines x (l.onChannel g).lines).2
  /-- So the report skips the same lines for the same reasons. -/
  rejected : ∀ g : Option Channel,
    ((h.execute x l).2.rejected.filter fun r => Channel.ofLine? r.line = g) =
      (h.execute x (l.onChannel g)).2.rejected
  /-- Lines of different channels can change places. -/
  reordered : ∀ l' : CommandList, (∀ ch : Channel, l'.onChannel (some ch) = l.onChannel (some ch)) →
    (h.execute x l').1 = (h.execute x l).1
  /-- The list and another one make one list. -/
  append : ∀ l' : CommandList, h.execute x ⟨l.lines ++ l'.lines⟩ =
    (((h.execute x l).1.execute x l').1,
      (h.execute x l).2.merge ((h.execute x l).1.execute x l').2)

/-- No header is added to a response that was sent, by whatever commands. -/
structure HeadersClosed (h : Host) (batch : Batch) : Prop where
  /-- What is waiting stays the same. -/
  kept : (h.carryOut batch).headers = h.headers
  /-- Every line that is to add a header is rejected. -/
  refused : ∀ run ∈ h.lineRuns batch, ∀ name value,
    Command.parse run.line = .ok (.httpHeader name value) →
      run.outcome = .rejected (.headersAlreadySent name)

theorem headersClosed_of_sent {h : Host} (hsent : h.headers.sent = true) (batch : Batch) :
    h.HeadersClosed batch := by
  obtain ⟨hkept, hrefused⟩ := carryOut_induction (h := h)
    (P := fun h' => h'.headers = h.headers)
    (Q := fun run => ∀ name value, Command.parse run.line = .ok (.httpHeader name value) →
      run.outcome = .rejected (.headersAlreadySent name))
    (fun h' part (_ : part ∈ batch) line _ hsame => by
      have hsent' : h'.headers.sent = true := by rw [hsame, hsent]
      obtain ⟨hleft, hrejected⟩ := applyLine_of_sent hsent'
      exact ⟨hleft.trans hsame, hrejected⟩) rfl
  exact ⟨hkept, hrefused⟩

/-- **The effects of a list come apart by channel**, on every host; and once the response was
sent, no list adds a header. -/
theorem effects_by_channel (h : Host) (x : String) (l : CommandList) :
    h.ByChannel x l ∧ (h.headers.sent = true → ∀ batch, h.HeadersClosed batch) := by
  have hchannel (l : CommandList) (ch : Channel) :
      ch.content (h.execute x l).1 = ch.content (h.execute x (l.onChannel (some ch))).1 :=
    (applyLines_filter_channel l.lines rfl).2
  have houtcomes (g : Option Channel) :
      ((h.applyLines x l.lines).2.filter fun o => Channel.ofLine? o.1 = g) =
        (h.applyLines x (l.onChannel g).lines).2 := by
    cases g with
    | none => exact applyLines_filter_no_channel l.lines h h
    | some ch => exact (applyLines_filter_channel l.lines rfl).1
  refine ⟨⟨hchannel l, session_execute h x l, houtcomes, fun g => ?_, fun l' hl' => ?_,
    execute_append h x l⟩, headersClosed_of_sent⟩
  · have hreport := ExecutionReport.filter_rejected_ofOutcomes x
      (fun line => Channel.ofLine? line = g) (h.applyLines x l.lines).2
    rw [houtcomes g] at hreport
    exact hreport
  · refine Channel.host_ext ?_ fun ch => ?_
    · rw [session_execute, session_execute]
    · rw [hchannel l', hchannel l, hl' ch]

end Host

end SplitTest
