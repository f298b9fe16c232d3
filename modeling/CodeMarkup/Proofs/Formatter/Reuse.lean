import CodeMarkup.Call
import CodeMarkup.Proofs.Formatter.Construction
import CodeMarkup.Proofs.Options.Issues
import CodeMarkup.Proofs.Run.Growth
import CodeMarkup.Proofs.Run.Log

/-!
Formatters that are used again. Calls leave kinds, records and the name of an encoding behind, and
of these only the kinds matter to later calls: each call is answered as by a formatter that has just
been made. More kinds do no harm, because a call that succeeds without them has the same answer with
them, and one that fails without them gets at least as far.
-/

namespace CodeMarkup

/-! ### Settings read with more kinds -/

namespace Setting

variable {t t' : Taxonomy} {names : ShortNames}

theorem namesOf_mono (h : t ⊆ t') {es : List (KindRef × Value)}
    (hnames : namesOf t es = .ok names) : namesOf t' es = .ok names := by
  unfold namesOf at hnames ⊢
  cases hmapping : ShortNames.ofMapping t es with
  | error u => simp [hmapping, Except.mapError] at hnames
  | ok ns =>
    rw [hmapping] at hnames
    rw [ShortNames.ofMapping_mono h hmapping]
    exact hnames

theorem toNames_mono (h : t ⊆ t') {s : Setting} (hnames : s.toNames t = .ok names) :
    s.toNames t' = .ok names := by
  unfold toNames at hnames ⊢
  split at hnames
  · exact hnames
  · exact namesOf_mono h hnames
  · cases hnames
  · exact namesOf_mono h hnames
  · exact hnames
  · cases hnames

end Setting

namespace Options

variable {t t' : Taxonomy} {given : List (String × Setting)} {o : Options}

theorem Reads.mono (h : t ⊆ t') (hreads : Reads t given o) : Reads t' given o :=
  { hreads with
    shortNames := Field.check_mono (fun _ _ => Setting.toNames_mono h) hreads.shortNames }

theorem ofSettings_mono (h : t ⊆ t') (hok : ofSettings t given = .ok o) :
    ofSettings t' given = .ok o :=
  ofSettings_eq_ok_iff.mpr ((ofSettings_eq_ok_iff.mp hok).mono h)

end Options

/-! ### Answers -/

namespace Answer

/-- The answer to a call once there are more kinds: all that came back before comes first, and the
answer is the same if there was no failure before. -/
structure GrowsTo (a a' : Answer) : Prop where
  texts_prefix : a.texts <+: a'.texts
  bytes_prefix : a.bytes <+: a'.bytes
  eq_of_ok : a.failure = none → a' = a

theorem GrowsTo.refl (a : Answer) : GrowsTo a a :=
  ⟨List.prefix_rfl, List.prefix_rfl, fun _ => rfl⟩

variable {r r' : Run}

theorem ofChunks_growsTo (h : r.GrowsTo r') : GrowsTo (ofChunks r) (ofChunks r') := by
  refine ⟨h.chunks_prefix, List.prefix_rfl, fun hok => ?_⟩
  have hfailure := Option.map_eq_none_iff.mp hok
  obtain ⟨hfailure', hchunks, hpulled⟩ := h.completes hfailure
  simp only [ofChunks, hfailure, hfailure', hchunks, hpulled]

theorem ofWhole_growsTo (h : r.GrowsTo r') : GrowsTo (ofWhole r) (ofWhole r') := by
  cases hfailure : r.failure with
  | some e =>
    refine ⟨?_, List.prefix_rfl, fun hok => ?_⟩
    · simp [ofWhole, hfailure]
    · simp [ofWhole, hfailure] at hok
  | none =>
    obtain ⟨hfailure', hchunks, hpulled⟩ := h.completes hfailure
    have heq : ofWhole r' = ofWhole r := by
      simp only [ofWhole, hfailure, hfailure', hchunks, hpulled]
    rw [heq]
    exact .refl _

theorem ofOutput_written_growsTo (h : r.GrowsTo r') :
    GrowsTo (ofOutput (.text r.written)) (ofOutput (.text r'.written)) := by
  refine ⟨h.chunks_prefix, List.prefix_rfl, fun hok => ?_⟩
  have hfailure := Option.map_eq_none_iff.mp (Option.map_eq_none_iff.mp hok)
  obtain ⟨hfailure', hchunks, hpulled⟩ := h.completes hfailure
  simp only [ofOutput, Run.written, hfailure, hfailure', hchunks, hpulled]

theorem ofOutput_encoded_growsTo (h : r.GrowsTo r') (e : Text.Encoding) :
    GrowsTo (ofOutput (.bytes (r.encoded e))) (ofOutput (.bytes (r'.encoded e))) := by
  refine ⟨List.prefix_rfl, Run.written_encodeFrom_prefix h.chunks_prefix e.mark, fun hok => ?_⟩
  have hfailure := Option.map_eq_none_iff.mp hok
  obtain ⟨hfailure', hwritten, hpulled⟩ := h.encoded hfailure
  simp only [ofOutput, hfailure, hfailure', hwritten, hpulled]

theorem ofChunks_follow (log : List LogRecord) (r : Run) :
    ofChunks (r.follow log) = ofChunks r := by
  rw [ofChunks, Run.chunks_follow]
  rfl

theorem ofWhole_follow (log : List LogRecord) (r : Run) :
    ofWhole (r.follow log) = ofWhole r := by
  rw [ofWhole, Run.chunks_follow]
  rfl

end Answer

/-! ### Calls -/

namespace Instance

variable {i : Instance} {s : Session} {c : Formatter.Call}

theorem formatter_perform (i : Instance) (s : Session) (c : Formatter.Call) :
    (i.perform s c).2.1.formatter = i.formatter := by
  unfold perform
  split
  · rfl
  · rfl
  · rfl
  · split <;> rfl
  · rfl

/-- Which encoding was set before does not matter: a call that writes sets its own. -/
theorem perform_new (i : Instance) (s : Session) (c : Formatter.Call) :
    (i.perform s c).1 = ((new i.formatter).perform s c).1 ∧
      (i.perform s c).2.2 = ((new i.formatter).perform s c).2.2 := by
  obtain ⟨method, tokens⟩ := c
  cases method with
  | render => exact ⟨rfl, rfl⟩
  | stream => exact ⟨rfl, rfl⟩
  | flat => exact ⟨rfl, rfl⟩
  | numbered layout =>
    simp only [perform, new]
    cases i.formatter.chooseLayout layout <;> exact ⟨rfl, rfl⟩
  | format encoding => exact ⟨rfl, rfl⟩

/-- Which records were logged before does not matter either. -/
theorem perform_follow (i : Instance) (log : List LogRecord) (s : Session) (c : Formatter.Call) :
    (i.perform (s.follow log) c).1 = (i.perform s c).1 ∧
      (i.perform (s.follow log) c).2.2 = (i.perform s c).2.2.follow log := by
  have hbegin : (s.follow log).begin = s.begin.follow log := rfl
  obtain ⟨method, tokens⟩ := c
  cases method with
  | render =>
    simp only [perform, hbegin, Formatter.stream_follow, Answer.ofWhole_follow, true_and]
    rfl
  | stream =>
    simp only [perform, hbegin, Formatter.stream_follow, Answer.ofChunks_follow, true_and]
    rfl
  | flat =>
    simp only [perform, hbegin, Formatter.flat_follow, Answer.ofChunks_follow, true_and]
    rfl
  | numbered layout =>
    simp only [perform]
    cases i.formatter.chooseLayout layout with
    | error e => exact ⟨rfl, rfl⟩
    | ok l =>
      simp only [hbegin, Formatter.buffered_follow, Answer.ofChunks_follow, true_and]
      rfl
  | format encoding =>
    simp only [perform, hbegin, Formatter.write_follow]
    cases i.formatter.write encoding s.begin tokens <;> exact ⟨rfl, rfl⟩

theorem subset_perform (i : Instance) (s : Session) (c : Formatter.Call) :
    s.taxonomy ⊆ (i.perform s c).2.2.taxonomy := by
  have hbegin : s.taxonomy ⊆ s.begin.taxonomy := s.taxonomy.subset_refl
  obtain ⟨method, tokens⟩ := c
  cases method with
  | render => exact (Formatter.keeps_stream hbegin tokens).last
  | stream => exact (Formatter.keeps_stream hbegin tokens).last
  | flat => exact (Formatter.keeps_flat hbegin tokens).last
  | numbered layout =>
    simp only [perform]
    cases i.formatter.chooseLayout layout with
    | error e => exact hbegin
    | ok l => exact (Formatter.keeps_buffered hbegin l tokens).last
  | format encoding => exact Formatter.keeps_write hbegin encoding tokens

theorem write_growsTo {s' : Session} (h : s.taxonomy ⊆ s'.taxonomy) (f : Formatter)
    (encoding : String) (tokens : List Token) :
    (Answer.ofOutput (f.write encoding s.begin tokens)).GrowsTo
      (Answer.ofOutput (f.write encoding s'.begin tokens)) := by
  have hbegin : s.begin.taxonomy ⊆ s'.begin.taxonomy := h
  have hstream := Formatter.stream_growsTo (f := f) hbegin rfl tokens
  unfold Formatter.write
  split
  · exact Answer.ofOutput_written_growsTo hstream
  · split
    · exact .refl _
    · split
      · exact .refl _
      · exact Answer.ofOutput_encoded_growsTo hstream _

theorem perform_growsTo {s' : Session} (h : s.taxonomy ⊆ s'.taxonomy) (i : Instance)
    (c : Formatter.Call) :
    (i.perform s c).1.GrowsTo (i.perform s' c).1 := by
  have hbegin : s.begin.taxonomy ⊆ s'.begin.taxonomy := h
  obtain ⟨method, tokens⟩ := c
  cases method with
  | render => exact Answer.ofWhole_growsTo (Formatter.stream_growsTo hbegin rfl tokens)
  | stream => exact Answer.ofChunks_growsTo (Formatter.stream_growsTo hbegin rfl tokens)
  | flat => exact Answer.ofChunks_growsTo (Formatter.flat_growsTo hbegin rfl tokens)
  | numbered layout =>
    simp only [perform]
    cases i.formatter.chooseLayout layout with
    | error e => exact .refl _
    | ok l => exact Answer.ofChunks_growsTo (Formatter.buffered_growsTo hbegin rfl l tokens)
  | format encoding => exact write_growsTo h i.formatter encoding tokens

/-! ### Calls one after the other -/

theorem after_append (i : Instance) (s : Session) (cs ds : List Formatter.Call) :
    i.after s (cs ++ ds) = (i.after s cs).1.after (i.after s cs).2 ds := by
  induction cs generalizing i s with
  | nil => rfl
  | cons c cs ih => exact ih _ _

theorem answers_append (i : Instance) (s : Session) (cs ds : List Formatter.Call) :
    i.answers s (cs ++ ds) = i.answers s cs ++ (i.after s cs).1.answers (i.after s cs).2 ds := by
  induction cs generalizing i s with
  | nil => rfl
  | cons c cs ih => exact congrArg (_ :: ·) (ih _ _)

theorem length_answers (i : Instance) (s : Session) (cs : List Formatter.Call) :
    (i.answers s cs).length = cs.length := by
  induction cs generalizing i s with
  | nil => rfl
  | cons c cs ih => exact congrArg (· + 1) (ih _ _)

theorem formatter_after (i : Instance) (s : Session) (cs : List Formatter.Call) :
    (i.after s cs).1.formatter = i.formatter := by
  induction cs generalizing i s with
  | nil => rfl
  | cons c cs ih => exact (ih _ _).trans (i.formatter_perform s c)

theorem subset_after (i : Instance) (s : Session) (cs : List Formatter.Call) :
    s.taxonomy ⊆ (i.after s cs).2.taxonomy := by
  induction cs generalizing i s with
  | nil => exact s.taxonomy.subset_refl
  | cons c cs ih => exact Taxonomy.subset_trans (i.subset_perform s c) (ih _ _)

theorem getElem?_answers (i : Instance) (s : Session) (earlier : List Formatter.Call)
    (c : Formatter.Call) (later : List Formatter.Call) :
    (i.answers s (earlier ++ c :: later))[earlier.length]? =
      some ((i.after s earlier).1.perform (i.after s earlier).2 c).1 := by
  rw [answers_append, List.getElem?_append_right (Nat.le_of_eq (i.length_answers s earlier)),
    length_answers, Nat.sub_self]
  rfl

end Instance

namespace Formatter

open Instance (new)

/-- Whatever was asked of a formatter before, the same options still make it, and it answers as if
it had just been made and nothing had been logged. With more kinds a call that succeeds has the same
answer, and what comes back from one that fails is a prefix of what comes back then. -/
theorem answers_as_new {o : Options} {f : Formatter} (hf : ofOptions o = .ok f) (s : Session) :
    (∀ earlier c later here, here = ((new f).after s earlier).2 →
      (ofRecord o [] here = (.ok f, here) ∧
        ∀ given, Options.ofSettings s.taxonomy given = .ok o →
          ofSettings given here = (.ok f, here)) ∧
      ((new f).answers s (earlier ++ c :: later))[earlier.length]? =
        some ((new f).perform ⟨here.taxonomy, []⟩ c).1 ∧
      ((new f).after s (earlier ++ [c])).2 =
        ((new f).perform ⟨here.taxonomy, []⟩ c).2.2.follow here.log) ∧
    ∀ t t', t ⊆ t' → ∀ c,
      ((new f).perform ⟨t, []⟩ c).1.GrowsTo ((new f).perform ⟨t', []⟩ c).1 := by
  refine ⟨?_, fun t t' h c => Instance.perform_growsTo h (new f) c⟩
  rintro earlier c later here rfl
  have hformatter := (new f).formatter_after s earlier
  have hgrown := (new f).subset_after s earlier
  have happend := (new f).after_append s earlier [c]
  have hanswer := (new f).getElem?_answers s earlier c later
  generalize (new f).after s earlier = now at *
  obtain ⟨hnew, hnew'⟩ := now.1.perform_new now.2 c
  obtain ⟨hlog, hlog'⟩ := (new f).perform_follow now.2.log ⟨now.2.taxonomy, []⟩ c
  rw [Session.follow_log] at hlog hlog'
  refine ⟨⟨ofRecord_nil hf now.2, fun given hgiven => ?_⟩, ?_, ?_⟩
  · exact ofSettings_of_ok (Options.ofSettings_mono hgrown hgiven) hf
  · rw [hanswer, hnew, hformatter]
    exact congrArg some hlog
  · rw [happend]
    refine hnew'.trans ?_
    rw [hformatter]
    exact hlog'

/-- A call that fails, once it has brought a kind into being. -/
def makingCall : Call :=
  ⟨.flat, [⟨.kind (Kind.root.child "Made"), "x"⟩, ⟨.value .null, "y"⟩]⟩

/-- A call with a token of that kind, which is given by its path. -/
def namingCall : Call :=
  ⟨.format "utf-16", [⟨.path "Made", "z"⟩]⟩

theorem answers_as_new_made :
    ofOptions {} = .ok standard ∧
      ∃ here, here = ((new standard).after {} [makingCall]).2 ∧
        ofSettings [] here = (.ok standard, here) ∧
        ((new standard).answers {} [makingCall, namingCall])[1]? =
          some ((new standard).perform ⟨here.taxonomy, []⟩ namingCall).1 := by
  have hhistory := (answers_as_new ofOptions_default {}).1
  obtain ⟨⟨-, hsettings⟩, hanswer, -⟩ := hhistory [makingCall] namingCall [] _ rfl
  exact ⟨ofOptions_default, _, rfl, hsettings [] rfl, hanswer⟩

end Formatter

end CodeMarkup
