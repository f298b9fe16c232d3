import CodeMarkup.Output
import CodeMarkup.Proofs.Run.Stream

/-!
Runs and the records logged before them. Nothing that is rendered or written depends on the log: it
is only added to. A run in a session with earlier records is the same run, with these records in
front of its own at every moment.
-/

namespace CodeMarkup

/-- The session with earlier records in front of its own. -/
def Session.follow (log : List LogRecord) (s : Session) : Session :=
  { s with log := log ++ s.log }

def Progress.follow (log : List LogRecord) (p : Progress) : Progress :=
  ⟨p.toSession.follow log, p.pulled⟩

def Emission.follow (log : List LogRecord) (m : Emission) : Emission :=
  ⟨m.chunk, m.progress.follow log⟩

def Written.follow {α : Type} (log : List LogRecord) (w : Written α) : Written α :=
  ⟨w.written, w.failure, w.last.follow log⟩

def Output.follow (log : List LogRecord) : Output → Output
  | .text w => .text (w.follow log)
  | .bytes w => .bytes (w.follow log)

namespace Session

/-- A session is one without records, after the records that it has. -/
theorem follow_log (s : Session) : Session.follow s.log ⟨s.taxonomy, []⟩ = s := by
  simp only [follow, List.append_nil]

theorem note_follow (log : List LogRecord) (s : Session) (r : LogRecord) :
    (s.follow log).note r = (s.note r).follow log := by
  simp only [note, follow, List.append_assoc]

end Session

namespace Run

/-- The run with earlier records in front of its own. -/
def follow (log : List LogRecord) (r : Run) : Run :=
  ⟨r.emissions.map (Emission.follow log), r.failure, r.last.follow log⟩

variable (log : List LogRecord) {rules : SpanRules} {e : Text.Encoding}

theorem chunks_follow (r : Run) : (r.follow log).chunks = r.chunks := by
  simp only [chunks, follow, List.map_map]
  rfl

theorem cons_follow (r : Run) (m : Emission) :
    (r.follow log).cons (m.follow log) = (r.cons m).follow log := rfl

theorem close_follow (r : Run) (chunk : String) :
    (r.follow log).close chunk = (r.close chunk).follow log := by
  unfold close
  cases hfailure : r.failure with
  | some f => simp only [follow, hfailure]
  | none => simp only [follow, hfailure, List.map_append]; rfl

theorem atOnce_follow (chunks : List String) (p : Progress) :
    atOnce chunks (p.follow log) = (atOnce chunks p).follow log := by
  simp only [atOnce, follow, List.map_map]
  rfl

theorem ofTokens_follow (p : Progress) (tokens : List Token) :
    ofTokens rules (p.follow log) tokens = (ofTokens rules p tokens).follow log := by
  induction tokens generalizing p with
  | nil => rfl
  | cons token tokens ih =>
    cases hrender : rules.render (token.kind.register p.taxonomy) token with
    | ok chunk =>
      have hrest := ih (p.advance (token.kind.register p.taxonomy) 1)
      rw [ofTokens_cons_of_ok hrender, ofTokens_cons_of_ok (p := p.follow log) hrender,
        ← cons_follow, ← hrest]
      rfl
    | error failure =>
      have hnote := Session.note_follow log ⟨token.kind.register p.taxonomy, p.log⟩ (.span failure)
      rw [ofTokens_cons_of_error hrender, ofTokens_cons_of_error (p := p.follow log) hrender]
      exact congrArg (fun s => fail (.span failure) ⟨s, p.pulled + 1⟩) hnote

theorem written_follow (r : Run) : (r.follow log).written = r.written.follow log := by
  rw [written, chunks_follow]
  rfl

theorem encodeFrom_follow (r : Run) (mark : List UInt8) (ms : List Emission) :
    (r.follow log).encodeFrom e mark (ms.map (Emission.follow log)) =
      (r.encodeFrom e mark ms).follow log := by
  induction ms generalizing mark with
  | nil => rfl
  | cons m ms ih =>
    have hchunk : (m.follow log).chunk = m.chunk := rfl
    rw [List.map_cons, encodeFrom, encodeFrom, hchunk]
    cases e.encode m.chunk.toList with
    | error u => rfl
    | ok bytes =>
      simp only [ih]
      rfl

end Run

namespace Formatter

variable (f : Formatter) (log : List LogRecord) (p : Progress) (tokens : List Token)

theorem flat_follow : f.flat (p.follow log) tokens = (f.flat p tokens).follow log := by
  dsimp only [flat]
  rw [Run.ofTokens_follow]
  generalize Run.ofTokens f.options.spanRules p tokens = run
  split
  · rw [← Run.close_follow, ← Run.cons_follow]
    rfl
  · rfl

theorem buffered_follow (l : Layout) :
    f.buffered l (p.follow log) tokens = (f.buffered l p tokens).follow log := by
  unfold buffered
  rw [Run.ofTokens_follow]
  generalize Run.ofTokens f.options.spanRules p tokens = run
  have hfailure : (run.follow log).failure = run.failure := rfl
  simp only [hfailure, Run.chunks_follow]
  cases run.failure with
  | some e => rfl
  | none =>
    have hnote (record : LogRecord) :
        (⟨(run.follow log).last.toSession.note record, (run.follow log).last.pulled⟩ : Progress) =
          Progress.follow log ⟨run.last.toSession.note record, run.last.pulled⟩ :=
      congrArg (fun s => (⟨s, run.last.pulled⟩ : Progress))
        (Session.note_follow log run.last.toSession record)
    simp only [hnote]
    split
    · rfl
    · exact Run.atOnce_follow log _ _

theorem stream_follow : f.stream (p.follow log) tokens = (f.stream p tokens).follow log := by
  unfold stream
  split
  · exact f.buffered_follow log p tokens _
  · exact f.flat_follow log p tokens

theorem write_follow (encoding : String) :
    f.write encoding (p.follow log) tokens = (f.write encoding p tokens).follow log := by
  unfold write
  rw [stream_follow]
  split
  · rw [Run.written_follow]
    rfl
  · split
    · rfl
    · split
      · rfl
      · exact congrArg Output.bytes (Run.encodeFrom_follow log _ _ _)

end Formatter

end CodeMarkup
