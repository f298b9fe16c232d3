import CodeMarkup.Proofs.Formatter.Layouts
import CodeMarkup.Proofs.Formatter.LineNumbers
import CodeMarkup.Proofs.Formatter.Reuse

/-!
Records of what a formatter was used for. Every token that is found to have no markup leaves one
record behind, and so does every stream that is drained into a numbered layout. Which of them there
are can be told from the answers alone: nothing else is logged, however many uses come one after the
other.
-/

namespace CodeMarkup

/-! ### Uses -/

namespace Formatter

/-- A use of a formatter: a call, or the first chunks of a stream or of flat markup, whose consumer
then stops. -/
inductive Use where
  | call (c : Call)
  | streamFront (count : Nat) (tokens : List Token)
  | flatFront (count : Nat) (tokens : List Token)

def Use.tokens : Use → List Token
  | call c => c.tokens
  | streamFront _ tokens => tokens
  | flatFront _ tokens => tokens

/-- The layout in which code is numbered in the configured way, if it is. -/
def streamLayout? (f : Formatter) : Option Layout :=
  if f.options.lineNumbers then some f.options.layout else none

/-- The layout in which a method numbers the code, if it does: the one given, or the configured
one. -/
def layoutFor? (f : Formatter) : Method → Option Layout
  | .flat => none
  | .numbered v => (f.chooseLayout v).toOption
  | .render | .stream | .format _ => f.streamLayout?

/-- The layout in which a use numbers the code, if it does. For a consumer that takes no chunk
nothing is started. -/
def layoutOf? (f : Formatter) : Use → Option Layout
  | .call c => f.layoutFor? c.method
  | .streamFront count _ => if count = 0 then none else f.streamLayout?
  | .flatFront _ _ => none

end Formatter

namespace Instance

open Formatter (Use)

/-- Serves a use: the answer, and the instance and the session after it. -/
def serve (i : Instance) (s : Session) : Use → Answer × Instance × Session
  | .call c => i.perform s c
  | .streamFront count tokens =>
    let run := (i.formatter.stream s.begin tokens).limit s.begin count
    (.ofChunks run, i, run.last.toSession)
  | .flatFront count tokens =>
    let run := (i.formatter.flat s.begin tokens).limit s.begin count
    (.ofChunks run, i, run.last.toSession)

/-- Uses that are served one after the other with their answers, and the session after them. -/
def history (i : Instance) (s : Session) : List Use → List (Use × Answer) × Session
  | [] => ([], s)
  | u :: us =>
    match i.serve s u with
    | (answer, i, s) =>
      match i.history s us with
      | (served, s) => ((u, answer) :: served, s)

end Instance

/-! ### Records told from answers -/

/-- The records of a run that logs `drained` if it drains its tokens. -/
def RunFailure.records (drained : List LogRecord) : Option RunFailure → List LogRecord
  | some (.span e) => [.span e]
  | _ => drained

/-- The records of writing a run that logs `drained` if it drains its tokens. Where no encoding is
found the run is not started. -/
def WriteFailure.records (drained : List LogRecord) : Option WriteFailure → List LogRecord
  | some (.run e) => RunFailure.records drained (some e)
  | some .nulInName | some (.unknownEncoding _) => []
  | some (.unencodable _) | none => drained

theorem WriteFailure.records_map_run (drained : List LogRecord) (e? : Option RunFailure) :
    WriteFailure.records drained (e?.map .run) = RunFailure.records drained e? := by
  cases e? <;> rfl

theorem Answer.failure_ofOutput (o : Output) : (ofOutput o).failure = o.failure.map .write := by
  cases o <;> rfl

/-- The records of making a formatter that failed. -/
def ConfigurationError.records : ConfigurationError → List LogRecord
  | .trailingNewline e => [.span e]
  | _ => []

namespace Formatter

/-- The record of a stream that is drained into a layout, if there is one. -/
def drainedRecords (f : Formatter) (tokens : List Token) (l? : Option Layout) : List LogRecord :=
  l?.toList.map (.drained (lineCount tokens) f.options.startLine)

/-- The records that a use leaves behind, told from its answer: the token without markup, if there
was one, or else the layout that the stream was drained into, unless it was not started. -/
def recordsOf (f : Formatter) (u : Use) (a : Answer) : List LogRecord :=
  let drained := f.drainedRecords u.tokens (f.layoutOf? u)
  match a.failure with
  | some (.layout _) => []
  | some (.write e) => WriteFailure.records drained (some e)
  | none => drained

theorem recordsOf_map_write (f : Formatter) (u : Use) {a : Answer} {e? : Option WriteFailure}
    (h : a.failure = e?.map .write) :
    f.recordsOf u a =
      WriteFailure.records (f.drainedRecords u.tokens (f.layoutOf? u)) e? := by
  cases e? <;> simp only [recordsOf, h] <;> rfl

theorem recordsOf_map_run (f : Formatter) (u : Use) {a : Answer} {e? : Option RunFailure}
    (h : a.failure = e?.map fun e => .write (.run e)) :
    f.recordsOf u a = RunFailure.records (f.drainedRecords u.tokens (f.layoutOf? u)) e? := by
  cases e? <;> simp only [recordsOf, h] <;> rfl

theorem recordsOf_of_ok {f : Formatter} {u : Use} {a : Answer} (h : a.failure = none) :
    f.recordsOf u a = f.drainedRecords u.tokens (f.layoutOf? u) := by
  simp only [recordsOf, h]

end Formatter

/-! ### Records of runs -/

namespace Run

/-- A run that started with the records `log` adds `drained` to them before its first chunk, and at
its end the failure of a token, which comes instead of `drained`. -/
structure Logs (log drained : List LogRecord) (r : Run) : Prop where
  emissions : ∀ m ∈ r.emissions, m.progress.log = log ++ drained
  last : r.last.log = log ++ RunFailure.records drained r.failure

variable {log drained : List LogRecord} {r : Run} {p : Progress}

theorem Logs.cons {m : Emission} (hm : m.progress.log = log ++ drained) (h : Logs log drained r) :
    Logs log drained (r.cons m) :=
  ⟨List.forall_mem_cons.mpr ⟨hm, h.emissions⟩, h.last⟩

theorem Logs.close (h : Logs log drained r) (chunk : String) :
    Logs log drained (r.close chunk) := by
  cases hfailure : r.failure with
  | some e =>
    simp only [Run.close, hfailure]
    exact h
  | none =>
    have hlast := h.last
    rw [hfailure] at hlast
    simp only [Run.close, hfailure]
    refine ⟨?_, hlast⟩
    intro m hm
    rcases List.mem_append.mp hm with hm | hm
    · exact h.emissions m hm
    · obtain rfl := List.mem_singleton.mp hm
      exact hlast

theorem logs_ofTokens (rules : SpanRules) (p : Progress) (tokens : List Token) :
    Logs p.log [] (ofTokens rules p tokens) := by
  induction tokens generalizing p with
  | nil => exact ⟨by simp [ofTokens], (List.append_nil _).symm⟩
  | cons token tokens ih =>
    cases hrender : rules.render (token.kind.register p.taxonomy) token with
    | ok chunk =>
      rw [ofTokens_cons_of_ok hrender]
      exact (ih (p.advance (token.kind.register p.taxonomy) 1)).cons (List.append_nil _).symm
    | error failure =>
      rw [ofTokens_cons_of_error hrender]
      exact ⟨by simp [fail], rfl⟩

/-- A consumer that takes no chunk starts nothing; after any chunk the stream has been drained if
it ever is. -/
theorem Logs.limit (h : Logs p.log drained r) (n : Nat) :
    (r.limit p n).last.log =
      p.log ++ RunFailure.records (if n = 0 then [] else drained) (r.limit p n).failure := by
  cases n with
  | zero => simp [Run.limit, RunFailure.records]
  | succ n =>
    unfold Run.limit
    split
    · exact h.last
    · next hlength =>
      obtain ⟨m, hm⟩ : ∃ m, (r.emissions.take (n + 1)).getLast? = some m := by
        refine Option.ne_none_iff_exists'.mp (mt List.getLast?_eq_none_iff.mp ?_)
        intro hnil
        have hzero := congrArg List.length hnil
        rw [List.length_take, List.length_nil] at hzero
        omega
      have hmem : m ∈ r.emissions := List.mem_of_mem_take (List.mem_of_getLast? hm)
      simp only [hm, Option.map_some, Option.getD_some]
      exact h.emissions m hmem

theorem failure_of_limit {n : Nat} {e : RunFailure} (h : (r.limit p n).failure = some e) :
    r.failure = some e := by
  unfold limit at h
  split at h
  · exact h
  · cases h

theorem Logs.encodeFrom {e : Text.Encoding} (h : Logs log drained r) {ms : List Emission}
    (hms : ∀ m ∈ ms, m ∈ r.emissions) (mark : List UInt8) :
    (r.encodeFrom e mark ms).last.log =
      log ++ WriteFailure.records drained (r.encodeFrom e mark ms).failure := by
  induction ms generalizing mark with
  | nil =>
    rw [Run.encodeFrom, WriteFailure.records_map_run]
    exact h.last
  | cons m ms ih =>
    rw [Run.encodeFrom]
    split
    · exact h.emissions m (hms m List.mem_cons_self)
    · exact ih (fun m' hm' => hms m' (List.mem_cons_of_mem _ hm')) []

theorem failure_of_encodeFrom {e : Text.Encoding} {ms : List Emission} {mark : List UInt8}
    {f : RunFailure} (h : (r.encodeFrom e mark ms).failure = some (.run f)) :
    r.failure = some f := by
  induction ms generalizing mark with
  | nil => simpa [encodeFrom] using h
  | cons m ms ih =>
    rw [encodeFrom] at h
    split at h
    · cases h
    · exact ih h

theorem stopsAt_of_ofTokens {rules : SpanRules} {tokens : List Token} {failure : SpanFailure}
    (h : (ofTokens rules p tokens).failure = some (.span failure)) :
    ∃ before chunks t bad, rules.StopsAt p.taxonomy tokens before chunks t bad failure := by
  rcases rules.renders_or_stopsAt p.taxonomy tokens with
    ⟨chunks, t, hrenders⟩ | ⟨before, chunks, t, bad, other, hstops⟩
  · rw [(ofTokens_of_renders hrenders).1] at h
    cases h
  · rw [(ofTokens_of_stopsAt hstops).1] at h
    obtain rfl : other = failure := by simpa using h
    exact ⟨before, chunks, t, bad, hstops⟩

end Run

/-! ### Records of a formatter -/

namespace Formatter

variable {f : Formatter} {p : Progress} {tokens : List Token} {failure : SpanFailure}

theorem logs_flat (f : Formatter) (p : Progress) (tokens : List Token) :
    (f.flat p tokens).Logs p.log [] := by
  have hrun := Run.logs_ofTokens f.options.spanRules p tokens
  dsimp only [flat]
  split
  · refine (hrun.cons ?_).close _
    exact (List.append_nil _).symm
  · exact hrun

theorem logs_buffered (f : Formatter) (l : Layout) (p : Progress) (tokens : List Token) :
    (f.buffered l p tokens).Logs p.log (f.drainedRecords tokens (some l)) := by
  rcases f.options.spanRules.renders_or_stopsAt p.taxonomy tokens with
    ⟨chunks, t, hrenders⟩ | ⟨before, chunks, t, bad, failure, hstops⟩
  · obtain ⟨hrun, -, hlast⟩ := Run.ofTokens_of_renders hrenders
    by_cases hfits : f.options.NumbersFit (lineCount tokens)
    · rw [buffered_of_fits hrun hfits, hlast]
      refine ⟨?_, rfl⟩
      intro m hm
      obtain ⟨chunk, -, rfl⟩ := List.mem_map.mp hm
      rfl
    · obtain ⟨e, he⟩ := buffered_of_not_fits (l := l) hrun hfits
      rw [he, hlast]
      exact ⟨by simp [Run.fail], rfl⟩
  · obtain ⟨hrun, -, hlast⟩ := Run.ofTokens_of_stopsAt hstops
    rw [buffered_of_error hrun, hlast]
    exact ⟨by simp [Run.fail], rfl⟩

theorem logs_stream (f : Formatter) (p : Progress) (tokens : List Token) :
    (f.stream p tokens).Logs p.log (f.drainedRecords tokens f.streamLayout?) := by
  unfold stream streamLayout?
  split
  · exact f.logs_buffered f.options.layout p tokens
  · exact f.logs_flat p tokens

theorem failure_ofTokens_of_buffered {l : Layout}
    (h : (f.buffered l p tokens).failure = some (.span failure)) :
    (Run.ofTokens f.options.spanRules p tokens).failure = some (.span failure) := by
  rcases f.buffered_cases l p tokens with ⟨e, hrun, he⟩ | ⟨e, he⟩ | hnone
  · rw [he] at h
    rw [hrun]
    exact h
  · rw [he] at h
    cases h
  · rw [hnone] at h
    cases h

theorem failure_ofTokens_of_stream (h : (f.stream p tokens).failure = some (.span failure)) :
    (Run.ofTokens f.options.spanRules p tokens).failure = some (.span failure) := by
  unfold stream at h
  split at h
  · exact failure_ofTokens_of_buffered h
  · rwa [failure_flat] at h

theorem log_write (f : Formatter) (encoding : String) (p : Progress) (tokens : List Token) :
    (f.write encoding p tokens).last.log =
      p.log ++ WriteFailure.records (f.drainedRecords tokens (f.streamLayout?))
        (f.write encoding p tokens).failure := by
  have hstream := f.logs_stream p tokens
  unfold write
  split
  · show _ = p.log ++ WriteFailure.records _ ((f.stream p tokens).failure.map .run)
    rw [WriteFailure.records_map_run]
    exact hstream.last
  split
  · exact (List.append_nil _).symm
  split
  · exact (List.append_nil _).symm
  · exact hstream.encodeFrom (fun _ hm => hm) _

theorem failure_ofTokens_of_write {encoding : String}
    (h : (f.write encoding p tokens).failure = some (.run (.span failure))) :
    (Run.ofTokens f.options.spanRules p tokens).failure = some (.span failure) := by
  unfold write at h
  split at h
  · have hrun : (f.stream p tokens).failure = some (.span failure) := by
      simpa [Output.failure, Run.written] using h
    exact failure_ofTokens_of_stream hrun
  split at h
  · cases h
  split at h
  · cases h
  · exact failure_ofTokens_of_stream (Run.failure_of_encodeFrom h)

end Formatter

namespace Instance

open Formatter (Use)

variable {i : Instance} {s : Session} {u : Use}

theorem formatter_serve (i : Instance) (s : Session) (u : Use) :
    (i.serve s u).2.1.formatter = i.formatter := by
  cases u with
  | call c => exact i.formatter_perform s c
  | streamFront count tokens => rfl
  | flatFront count tokens => rfl

theorem log_perform (i : Instance) (s : Session) (c : Formatter.Call) :
    (i.perform s c).2.2.log =
      s.log ++ i.formatter.recordsOf (.call c) (i.perform s c).1 := by
  obtain ⟨method, tokens⟩ := c
  cases method with
  | render =>
    rw [Formatter.recordsOf_map_run _ _ rfl]
    exact (i.formatter.logs_stream s.begin tokens).last
  | stream =>
    rw [Formatter.recordsOf_map_run _ _ rfl]
    exact (i.formatter.logs_stream s.begin tokens).last
  | flat =>
    rw [Formatter.recordsOf_map_run _ _ rfl]
    exact (i.formatter.logs_flat s.begin tokens).last
  | numbered v =>
    simp only [perform]
    cases hv : i.formatter.chooseLayout v with
    | error e => exact (List.append_nil _).symm
    | ok l =>
      rw [Formatter.recordsOf_map_run _ _ rfl]
      simp only [Formatter.layoutOf?, Formatter.layoutFor?, hv]
      exact (i.formatter.logs_buffered l s.begin tokens).last
  | format encoding =>
    have hfailure := Answer.failure_ofOutput (i.formatter.write encoding s.begin tokens)
    refine Eq.trans ?_ (congrArg (s.log ++ ·) (Formatter.recordsOf_map_write _ _ hfailure).symm)
    exact i.formatter.log_write encoding s.begin tokens

/-- What one use logs is told by its answer. -/
theorem log_serve (i : Instance) (s : Session) (u : Use) :
    (i.serve s u).2.2.log = s.log ++ i.formatter.recordsOf u (i.serve s u).1 := by
  cases u with
  | call c => exact i.log_perform s c
  | streamFront count tokens =>
    have hlimit := (i.formatter.logs_stream s.begin tokens).limit count
    rw [Formatter.recordsOf_map_run _ _ rfl]
    cases count <;> exact hlimit
  | flatFront count tokens =>
    have hlimit := (i.formatter.logs_flat s.begin tokens).limit count
    rw [Formatter.recordsOf_map_run _ _ rfl]
    cases count <;> exact hlimit

theorem history_singleton (i : Instance) (s : Session) (u : Use) :
    i.history s [u] = ([(u, (i.serve s u).1)], (i.serve s u).2.2) := rfl

/-- The records of uses that are served one after the other are those of each of them, in order. -/
theorem log_history (i : Instance) (s : Session) (us : List Use) :
    (i.history s us).2.log =
      s.log ++ (i.history s us).1.flatMap fun e => i.formatter.recordsOf e.1 e.2 := by
  induction us generalizing i s with
  | nil => exact (List.append_nil _).symm
  | cons u us ih =>
    have hrest := ih (i.serve s u).2.1 (i.serve s u).2.2
    rw [i.formatter_serve, log_serve] at hrest
    rw [history, List.flatMap_cons, ← List.append_assoc]
    exact hrest

/-- A token that is reported in an answer is the first one of its stream without markup. -/
theorem stopsAt_of_serve {failure : SpanFailure}
    (h : (i.serve s u).1.failure = some (.write (.run (.span failure)))) :
    ∃ before chunks t bad,
      i.formatter.options.spanRules.StopsAt s.taxonomy u.tokens before chunks t bad failure := by
  refine Run.stopsAt_of_ofTokens (p := s.begin) ?_
  have hwritten {run : Run} (h : (run.failure.map fun e => Formatter.CallFailure.write (.run e)) =
      some (.write (.run (.span failure)))) : run.failure = some (.span failure) := by
    simpa using h
  cases u with
  | streamFront count tokens =>
    exact Formatter.failure_ofTokens_of_stream (Run.failure_of_limit (hwritten h))
  | flatFront count tokens =>
    rw [← Formatter.failure_flat]
    exact Run.failure_of_limit (hwritten h)
  | call c =>
    obtain ⟨method, tokens⟩ := c
    cases method with
    | render => exact Formatter.failure_ofTokens_of_stream (hwritten h)
    | stream => exact Formatter.failure_ofTokens_of_stream (hwritten h)
    | flat =>
      rw [← Formatter.failure_flat]
      exact hwritten h
    | numbered v =>
      simp only [serve, perform] at h
      cases hv : i.formatter.chooseLayout v with
      | error e =>
        rw [hv] at h
        cases h
      | ok l =>
        rw [hv] at h
        exact Formatter.failure_ofTokens_of_buffered (hwritten h)
    | format encoding =>
      have hfailure := Answer.failure_ofOutput (i.formatter.write encoding s.begin tokens)
      have hwrite : (i.formatter.write encoding s.begin tokens).failure =
          some (.run (.span failure)) := by simpa using hfailure.symm.trans h
      exact Formatter.failure_ofTokens_of_write hwrite

end Instance

namespace Formatter

open Instance (new)

variable {o : Options} {f : Formatter} {l : Layout} {p : Progress} {s : Session}
  {tokens : List Token}

/-! ### Gutters and records -/

theorem stream_of_streamLayout? (h : f.streamLayout? = some l) (p : Progress)
    (tokens : List Token) : f.stream p tokens = f.buffered l p tokens := by
  unfold streamLayout? at h
  split at h
  · next hnumbers =>
    obtain rfl := Option.some.inj h
    rw [stream, if_pos hnumbers]
  · cases h

theorem write_of_ok {encoding : String} (h : (f.write encoding p tokens).failure = none) :
    (f.stream p tokens).failure = none ∧
      (f.write encoding p tokens = .text (f.stream p tokens).written ∨
        ∃ e, f.write encoding p tokens = .bytes ((f.stream p tokens).encoded e)) := by
  unfold write at h ⊢
  split at h
  · next hempty => exact ⟨Option.map_eq_none_iff.mp h, .inl (if_pos hempty)⟩
  split at h
  · cases h
  split at h
  · cases h
  · next hempty hnul _ e he =>
    refine ⟨(Run.of_encodeFrom h).1, .inr ⟨e, ?_⟩⟩
    rw [if_neg hempty, if_neg hnul]

/-- A call that numbers the code in a layout and succeeds comes back with that layout, as texts or
as bytes. -/
theorem markup_of_perform {i : Instance} {c : Call} (hl : i.formatter.layoutFor? c.method = some l)
    (hok : (i.perform s c).1.failure = none) :
    (i.formatter.buffered l s.begin c.tokens).failure = none ∧
      (String.join (i.perform s c).1.texts =
          String.join (i.formatter.buffered l s.begin c.tokens).chunks ∨
        ∃ e, (i.perform s c).1.bytes =
          ((i.formatter.buffered l s.begin c.tokens).encoded e).written) := by
  obtain ⟨method, tokens⟩ := c
  cases method with
  | render =>
    have hstream := stream_of_streamLayout? hl s.begin tokens
    simp only [Instance.perform, hstream] at hok ⊢
    have hrun := Option.map_eq_none_iff.mp hok
    refine ⟨hrun, .inl ?_⟩
    simp [Answer.ofWhole, hrun]
  | stream =>
    have hstream := stream_of_streamLayout? hl s.begin tokens
    simp only [Instance.perform, hstream] at hok ⊢
    exact ⟨Option.map_eq_none_iff.mp hok, .inl rfl⟩
  | flat => cases hl
  | numbered v =>
    simp only [layoutFor?] at hl
    simp only [Instance.perform] at hok ⊢
    cases hv : i.formatter.chooseLayout v with
    | error e =>
      rw [hv] at hl
      cases hl
    | ok m =>
      rw [hv] at hl hok
      obtain rfl := Option.some.inj hl
      exact ⟨Option.map_eq_none_iff.mp hok, .inl rfl⟩
  | format encoding =>
    have hstream := stream_of_streamLayout? hl s.begin tokens
    have hfailure := Answer.failure_ofOutput (i.formatter.write encoding s.begin tokens)
    have hwrite := Option.map_eq_none_iff.mp (hfailure.symm.trans hok)
    obtain ⟨hrun, htext | ⟨e, hbytes⟩⟩ := write_of_ok hwrite
    · rw [hstream] at hrun htext
      refine ⟨hrun, .inl ?_⟩
      simp only [Instance.perform, htext]
      rfl
    · rw [hstream] at hrun hbytes
      refine ⟨hrun, .inr ⟨e, ?_⟩⟩
      simp only [Instance.perform, hbytes]
      rfl

/-- A chunk that cannot be encoded comes from a stream that was drained without failure. -/
theorem failure_buffered_of_unencodable {encoding : String} {u : Text.Unencodable}
    (hl : f.streamLayout? = some l)
    (h : (f.write encoding p tokens).failure = some (.unencodable u)) :
    (f.buffered l p tokens).failure = none := by
  cases hrun : (f.buffered l p tokens).failure with
  | none => rfl
  | some e =>
    have hempty : (f.buffered l p tokens).emissions = [] :=
      List.map_eq_nil_iff.mp (chunks_buffered_of_error hrun)
    unfold write at h
    rw [stream_of_streamLayout? hl] at h
    split at h
    · simp [Output.failure, Run.written, hrun] at h
    split at h
    · cases h
    split at h
    · cases h
    · simp [Output.failure, Run.encoded, Run.encodeFrom, hempty, hrun] at h

theorem failure_buffered_of_perform {i : Instance} {c : Call} {u : Text.Unencodable}
    (hl : i.formatter.layoutFor? c.method = some l)
    (h : (i.perform s c).1.failure = some (.write (.unencodable u))) :
    (i.formatter.buffered l s.begin c.tokens).failure = none := by
  have hwritten {run : Run} : (run.failure.map fun e => CallFailure.write (.run e)) ≠
      some (.write (.unencodable u)) := by simp
  obtain ⟨method, tokens⟩ := c
  cases method with
  | render => exact absurd h hwritten
  | stream => exact absurd h hwritten
  | flat => exact absurd h hwritten
  | numbered v =>
    simp only [Instance.perform] at h
    cases hv : i.formatter.chooseLayout v with
    | error e =>
      rw [hv] at h
      cases h
    | ok m =>
      rw [hv] at h
      exact absurd h hwritten
  | format encoding =>
    have hfailure := Answer.failure_ofOutput (i.formatter.write encoding s.begin tokens)
    have hwrite : (i.formatter.write encoding s.begin tokens).failure = some (.unencodable u) := by
      simpa using hfailure.symm.trans h
    exact failure_buffered_of_unencodable hl hwrite

theorem toInt?_gutterCell (h : (f.buffered l p tokens).failure = none) :
    (Text.pieces '\n' (Markup.plainText
        (String.join (l.gutterCell (f.buffered l p tokens).chunks)))).map String.toInt? =
      (List.range (lineCount tokens)).map fun i : Nat => some (f.options.startLine + i) := by
  rw [plainText_gutterCell h, f.options.toInt?_lineNumbering (lineCount_pos tokens)]

/-! ### Making a formatter -/

/-- Making a formatter logs that a line break cannot be rendered, and nothing else. -/
structure LogsNewline (s : Session) (made : Except ConfigurationError Formatter × Session) :
    Prop where
  ok : ∀ f, made.1 = .ok f → made.2.log = s.log
  error : ∀ e, made.1 = .error e → made.2.log = s.log ++ e.records
  newline : ∀ failure, made.1 = .error (.trailingNewline failure) →
    ∃ o : Options, o.spanRules.renderKind .whitespace "\n" = .error failure

theorem logsNewline_refused {e : ConfigurationError} (h : e.records = []) (s : Session) :
    LogsNewline s (.error e, s) := by
  refine ⟨?_, ?_, ?_⟩
  · intro f hf
    cases hf
  · intro e' he
    obtain rfl := Except.error.inj he
    rw [h, List.append_nil]
  · intro failure hfailure
    obtain rfl := Except.error.inj hfailure
    cases h

theorem logsNewline_build (o : Options) (s : Session) : LogsNewline s (build o s) := by
  unfold build ofOptions
  cases h : o.spanRules.renderKind .whitespace "\n" with
  | ok newline =>
    refine ⟨fun _ _ => rfl, ?_, ?_⟩
    · intro e he
      cases he
    · intro failure hfailure
      cases hfailure
  | error e =>
    refine ⟨?_, ?_, ?_⟩
    · intro f hf
      cases hf
    · intro e' he
      obtain rfl := Except.error.inj he
      rfl
    · intro failure hfailure
      obtain rfl : e = failure := by simpa [Except.map] using hfailure
      exact ⟨o, h⟩

theorem logsNewline_ofArguments (given : List (String × Setting)) (s : Session) :
    LogsNewline s (ofArguments given s) := by
  have hsettings (given : List (String × Setting)) : LogsNewline s (ofSettings given s) := by
    unfold ofSettings
    split
    · exact logsNewline_build _ s
    · exact logsNewline_refused rfl s
  dsimp only [ofArguments]
  split
  · exact logsNewline_refused rfl s
  split
  · exact hsettings _
  · exact hsettings _
  · split <;> exact logsNewline_refused rfl s

theorem logsNewline_ofRecord (o : Options) (given : List (String × Setting)) (s : Session) :
    LogsNewline s (ofRecord o given s) := by
  unfold ofRecord
  split
  · exact logsNewline_refused rfl s
  split
  · exact logsNewline_build o s
  · exact logsNewline_refused rfl s

/-- The records of making a formatter and using it are one for each token that has no markup, the
line break that may be added included, and one for each stream that is drained into a layout, with
as many lines as its gutter has numbers, the first of them and the layout. There are no others, and
their order is that of the uses. -/
theorem log_of_uses (o : Options) (given : List (String × Setting)) (s : Session) :
    (∀ made, made = ofArguments given s ∨ made = ofRecord o given s →
      LogsNewline s made ∧
      ∀ f us, made.1 = .ok f →
        ((new f).history made.2 us).2.log = s.log ++
          ((new f).history made.2 us).1.flatMap fun e => f.recordsOf e.1 e.2) ∧
    (∀ (i : Instance) here u failure,
      (i.serve here u).1.failure = some (.write (.run (.span failure))) →
      ∃ before chunks t bad,
        i.formatter.options.spanRules.StopsAt here.taxonomy u.tokens before chunks t bad failure) ∧
    ∀ (i : Instance) here c l run, i.formatter.layoutFor? c.method = some l →
      run = i.formatter.buffered l here.begin c.tokens →
      ((i.perform here c).1.failure = none → run.failure = none ∧
        (String.join (i.perform here c).1.texts = String.join run.chunks ∨
          ∃ e, (i.perform here c).1.bytes = (run.encoded e).written)) ∧
      (∀ u, (i.perform here c).1.failure = some (.write (.unencodable u)) →
        run.failure = none) ∧
      (run.failure = none →
        (Text.pieces '\n' (Markup.plainText
            (String.join (l.gutterCell run.chunks)))).map String.toInt? =
          (List.range (lineCount c.tokens)).map fun n : Nat =>
            some (i.formatter.options.startLine + n)) := by
  refine ⟨?_, ?_, ?_⟩
  · intro made hmade
    have hlogs : LogsNewline s made := by
      rcases hmade with rfl | rfl
      · exact logsNewline_ofArguments given s
      · exact logsNewline_ofRecord o given s
    refine ⟨hlogs, ?_⟩
    intro f us hf
    rw [← hlogs.ok f hf]
    exact (new f).log_history made.2 us
  · intro i here u failure h
    exact Instance.stopsAt_of_serve h
  · rintro i here c l run hl rfl
    exact ⟨fun hok => markup_of_perform hl hok,
      fun u hu => failure_buffered_of_perform hl hu, toInt?_gutterCell⟩

/-- Uses of which one is refused, one fails and one is left before it starts. -/
def unfinishedUses : List Use := [
  .call ⟨.numbered (.text "grid"), blankTokens "x"⟩,
  .flatFront 3 [⟨.value .null, "y"⟩],
  .streamFront 0 [⟨.value .null, "y"⟩]]

theorem recordsOf_numbered (h : (f.buffered l s.begin tokens).failure = none) :
    f.recordsOf (.call ⟨.numbered (.text l.name), tokens⟩)
        ((new f).serve s (.call ⟨.numbered (.text l.name), tokens⟩)).1 =
      [.drained (lineCount tokens) f.options.startLine l] := by
  have hserve : (new f).serve s (.call ⟨.numbered (.text l.name), tokens⟩) = _ :=
    perform_numbered_name (new f) s l tokens
  rw [hserve, recordsOf_of_ok (Option.map_eq_none_iff.mpr h), layoutOf?, layoutFor?,
    chooseLayout_name]
  rfl

theorem log_of_uses_standard :
    (ofArguments [] {}).1 = .ok standard ∧
      ((new standard).history {} unfinishedUses).2.log =
        [.span (.unresolved (.value .null) "y")] ∧
      ((new standard).history {}
          [.call ⟨.numbered (.text Layout.div.name), blankTokens "x\ny"⟩]).2.log =
        [.drained 2 1 .div] := by
  have hmade : ofArguments [] {} = (.ok standard, {}) := by
    rw [ofArguments_eq (by decide) (by decide)]
    exact ofSettings_of_ok rfl ofOptions_default
  obtain ⟨-, hlog⟩ := (log_of_uses {} [] {}).1 _ (.inl rfl)
  have hunfinished := hlog standard unfinishedUses (by rw [hmade])
  have hnumbered := hlog standard
    [.call ⟨.numbered (.text Layout.div.name), blankTokens "x\ny"⟩] (by rw [hmade])
  rw [hmade] at hunfinished hnumbered
  refine ⟨by rw [hmade], hunfinished, ?_⟩
  have hok : (standard.buffered .div ({} : Session).begin (blankTokens "x\ny")).failure = none :=
    failure_buffered_standard .div _ "x\ny" (by decide +kernel)
  have hlines : lineCount (blankTokens "x\ny") = 2 := by decide +kernel
  have hrecords := recordsOf_numbered hok
  rw [hlines] at hrecords
  rw [hnumbered, Instance.history_singleton, List.flatMap_singleton, hrecords]
  rfl

end Formatter

end CodeMarkup
