import Crucible.Interfaces.Serde
import Crucible.Lib.Buffered
import Crucible.Lib.JsonScan
import Crucible.Lib.Records
import Crucible.ProverCore.Service

/-!
# Provenance transcripts (`crates/prover-core/src/transcript.rs`)

A transcript is a file of lines, one redacted JSON object each, that only grows.  A line and its
newline are two writes, and any write can stop anywhere.

* `TranscriptEntry`     what is recorded of a request and its outcome;
* `appendTranscript`, `TranscriptWriter`   the two ways to record it;
* `Recording`, `runAll`   histories of both over one file, with every failure there can be;
* `intact`              which entries can be read afterwards, from what is left of each;
* `entryLines_flatten`  these are the lines that are entries;
* `transcript_read`     a history leaves such a file.
-/

namespace Crucible
open Checked Serde Buffered

/-! ## entries -/

structure TranscriptEntry where
  operation : Operation
  circuit : String
  backend : String
  requestId : String
  privateWitnessCount : Nat
  verificationKeyId : String
  artifactChecksum : String
  verified : Bool
deriving DecidableEq

namespace TranscriptEntry

def fromRequestResponse (r : ProofRequest) (response : ProofResponse)
    (outcome : VerificationOutcome) : TranscriptEntry where
  operation := r.operation
  circuit := r.circuit.id
  backend := r.backend.id
  requestId := r.requestId.id
  privateWitnessCount := r.witness.names.length
  verificationKeyId := response.verificationKeyId.id
  artifactChecksum := response.artifactChecksum.hex
  verified := outcome.verified

/-- the derived `Serialize` -/
def json (e : TranscriptEntry) : Json :=
  .obj [("operation", toJson e.operation), ("circuit", toJson e.circuit),
    ("backend", toJson e.backend), ("request_id", toJson e.requestId),
    ("private_witness_count", .int e.privateWitnessCount),
    ("verification_key_id", toJson e.verificationKeyId),
    ("artifact_checksum", toJson e.artifactChecksum), ("verified", toJson e.verified)]

/-- `serde_json::to_string` -/
def line (e : TranscriptEntry) : List UInt8 := e.json.compact.toUTF8.data.toList

/-- a line, and what ends it -/
def record (e : TranscriptEntry) : List UInt8 := Records.record line 0x0a e

end TranscriptEntry

/-! ## recording -/

/-- how the calls of one append end -/
structure AppendIo where
  /-- why the file cannot be opened -/
  opened : Option String
  line : Option Stop
  newline : Option Stop

/-- the answer, and the file that is left; a missing file has no bytes -/
def appendTranscript (path : String) (io : AppendIo) (e : TranscriptEntry) (file : List UInt8) :
    Except CoreError Unit × List UInt8 :=
  let failed (reason : String) : CoreError := .internal s!"cannot write transcript: {reason}"
  match io.opened with
  | some reason => (.error (.internal s!"cannot open transcript {path}: {reason}"), file)
  | none =>
    match writeAll e.line io.line with
    | (written, some reason) => (.error (failed reason), file ++ written)
    | (written, none) =>
      match writeAll [0x0a] io.newline with
      | (ending, some reason) => (.error (failed reason), file ++ written ++ ending)
      | (ending, none) => (.ok (), file ++ written ++ ending)

structure TranscriptWriter where
  inner : Option (Writer UInt8)

/-- how the writes behind the buffer end: of the buffer, and of what passes it by -/
structure WriteIo where
  flushing : Option Stop
  writing : Option Stop

namespace TranscriptWriter

/-- the capacity of `BufWriter::new` -/
def capacity : Nat := 8 * 1024

def append (path : String) (opened : Option String) (file : List UInt8) :
    Except CoreError TranscriptWriter :=
  match opened with
  | some reason => .error (.internal s!"cannot open transcript {path}: {reason}")
  | none => .ok ⟨some ⟨file, []⟩⟩

def null : TranscriptWriter := ⟨none⟩

def write (e : TranscriptEntry) (line newline : WriteIo) (w : TranscriptWriter) :
    Except CoreError Unit × TranscriptWriter :=
  let failed (reason : String) : CoreError := .internal s!"cannot write transcript: {reason}"
  match w.inner with
  | none => (.ok (), w)
  | some inner =>
    match inner.write capacity e.line line.flushing line.writing with
    | (inner, some reason) => (.error (failed reason), ⟨some inner⟩)
    | (inner, none) =>
      match inner.write capacity [0x0a] newline.flushing newline.writing with
      | (inner, some reason) => (.error (failed reason), ⟨some inner⟩)
      | (inner, none) => (.ok (), ⟨some inner⟩)

def flush (stop : Option Stop) (w : TranscriptWriter) : Except CoreError Unit × TranscriptWriter :=
  match w.inner with
  | none => (.ok (), w)
  | some inner =>
    match inner.flushBuf stop with
    | (inner, some reason) =>
      (.error (.internal s!"cannot flush transcript: {reason}"), ⟨some inner⟩)
    | (inner, none) => (.ok (), ⟨some inner⟩)

end TranscriptWriter

/-! ## histories -/

/-- a call on a writer, and how its writes end -/
inductive Call where
  | write (e : TranscriptEntry) (line newline : WriteIo)
  | flush (stop : Option Stop)

def Call.run : Call → TranscriptWriter → Except CoreError Unit × TranscriptWriter
  | .write e line newline, w => w.write e line newline
  | .flush stop, w => w.flush stop

def Call.entries : Call → List TranscriptEntry
  | .write e _ _ => [e]
  | .flush _ => []

/-- the answers, and the writer that is left -/
def runCalls : List Call → TranscriptWriter → List (Except CoreError Unit) × TranscriptWriter
  | [], w => ([], w)
  | call :: calls, w =>
    let (answer, w) := call.run w
    let (answers, w) := runCalls calls w
    (answer :: answers, w)

/-- one use of the file: an append, or a writer from when it is opened to when it is dropped -/
inductive Recording where
  | append (e : TranscriptEntry) (io : AppendIo)
  | batch (opened : Option String) (calls : List Call) (dropped : Option Stop)

namespace Recording

/-- the entries that are to be recorded -/
def entries : Recording → List TranscriptEntry
  | append e _ => [e]
  | batch none calls _ => calls.flatMap Call.entries
  | batch (some _) _ _ => []

def run (path : String) : Recording → List UInt8 → List (Except CoreError Unit) × List UInt8
  | append e io, file =>
    let (answer, file) := appendTranscript path io e file
    ([answer], file)
  | batch opened calls dropped, file =>
    match TranscriptWriter.append path opened file with
    | .error e => ([.error e], file)
    | .ok w =>
      let (answers, w) := runCalls calls w
      (answers, match w.inner with
        | none => file
        | some inner => inner.close dropped)

/-- every call was answered `Ok`, and a writer was flushed last -/
def Confirmed (s : Recording) (answers : List (Except CoreError Unit)) : Prop :=
  (∀ answer ∈ answers, answer = .ok ()) ∧
    match s with
    | append _ _ => True
    | batch _ calls _ => ∃ stop, calls.getLast? = some (.flush stop)

end Recording

/-- the answers to every session, and the file after them -/
def runAll (path : String) : List Recording → List UInt8 →
    List (List (Except CoreError Unit)) × List UInt8
  | [], file => ([], file)
  | s :: recordings, file =>
    let (answers, file) := s.run path file
    let (rest, file) := runAll path recordings file
    (answers :: rest, file)

/-! ## lines -/

/-- what a line shows outside of its strings, behind its brace -/
def Tame (x : UInt8) : Prop := x ≠ 0x7b ∧ x ≠ 0x6f

instance : DecidablePred Tame := fun x => inferInstanceAs (Decidable (x ≠ 0x7b ∧ x ≠ 0x6f))

namespace TranscriptEntry

theorem line_eq (e : TranscriptEntry) :
    ∃ whole, e.line = 0x7b :: whole ∧ Bare Tame whole := by
  have hstr (s : String) : Bare Tame (Json.str s).compact.toUTF8.data.toList := bare_quote s
  have hpunct : ∀ x ∈ [0x2c, 0x3a, 0x7d], Tame x := by
    simp only [List.forall_mem_cons]
    exact ⟨by decide, by decide, by decide, List.forall_mem_nil _⟩
  refine bare_fields hpunct fun f hf => ?_
  simp only [List.mem_cons, List.not_mem_nil, or_false] at hf
  rcases hf with rfl | rfl | rfl | rfl | rfl | rfl | rfl | rfl
  · exact hstr _
  · exact hstr _
  · exact hstr _
  · exact hstr _
  · refine bare_nat _ fun x hge hle => ⟨?_, ?_⟩
    · rintro rfl
      exact absurd hle (by decide)
    · rintro rfl
      exact absurd hle (by decide)
  · exact hstr _
  · exact hstr _
  · show Bare Tame (Json.bool e.verified).compact.toUTF8.data.toList
    cases e.verified
    · decide
    · decide

/-- a line begins with the brace, and the first name -/
theorem line_head (e : TranscriptEntry) : ∃ rest, e.line = 0x7b :: 0x22 :: 0x6f :: rest := by
  obtain ⟨cs, hcs⟩ : ∃ cs, e.json.compact.toList = '\x7b' :: '\"' :: 'o' :: cs := by
    rw [json, compact_obj_toList, List.map_cons, Framing.SelfDelimiting.intercalate_cons,
      compactField_toList]
    exact ⟨_, rfl⟩
  refine ⟨cs.flatMap String.utf8EncodeChar, ?_⟩
  rw [line, Utf8.toUTF8_toList, hcs]
  rfl

/-- **lines of entries are told apart**, whatever is in front of them -/
theorem framed : Records.Framed line 0x7b 0x0a where
  head e := by
    obtain ⟨_, hline, _⟩ := e.line_eq
    rw [hline]
    rfl
  ends e := by
    obtain ⟨whole, hline, hbare⟩ := e.line_eq
    rw [hline]
    intro hmem
    rcases List.mem_cons.mp hmem with h | h
    · cases h
    · exact absurd (hbare.visible _ h) (by decide)
  glued t e e' := by
    obtain ⟨rest, hhead⟩ := e.line_head
    obtain ⟨whole, hline, hbare⟩ := e'.line_eq
    rw [hhead, hline]
    exact glued_ne t (by decide) (by decide) (by decide) hbare

end TranscriptEntry

/-! ## what a session leaves -/

/-- for each entry what of its record is in the file -/
abbrev TranscriptLog := Records.Log TranscriptEntry UInt8

/-- what is left of some entries, and that everything is left of them if all went well -/
structure Keeps (entries : List TranscriptEntry) (well : Prop) (log : TranscriptLog) : Prop where
  entries : log.map Prod.fst = entries
  isCut : Records.IsCut TranscriptEntry.line 0x0a log
  whole : well → ∀ p ∈ log, Records.Whole TranscriptEntry.line 0x0a p

section
variable {entries entries' : List TranscriptEntry} {well well' : Prop} {log log' : TranscriptLog}

theorem Keeps.nil : Keeps [] well [] :=
  ⟨rfl, fun _ h => absurd h List.not_mem_nil, fun _ _ h => absurd h List.not_mem_nil⟩

theorem Keeps.one {e : TranscriptEntry} {part : List UInt8} (hcut : part <+: e.record)
    (hwhole : well → part = e.record) : Keeps [e] well [(e, part)] :=
  ⟨rfl, List.forall_mem_singleton.mpr hcut, fun h => List.forall_mem_singleton.mpr (hwhole h)⟩

theorem Keeps.append (h : Keeps entries well log) (h' : Keeps entries' well' log') :
    Keeps (entries ++ entries') (well ∧ well') (log ++ log') where
  entries := by rw [List.map_append, h.entries, h'.entries]
  isCut := List.forall_mem_append.mpr ⟨h.isCut, h'.isCut⟩
  whole hwell := List.forall_mem_append.mpr ⟨h.whole hwell.1, h'.whole hwell.2⟩

theorem Keeps.mono (h : Keeps entries well log) (hwell : well' → well) : Keeps entries well' log :=
  ⟨h.entries, h.isCut, fun h' => h.whole (hwell h')⟩

end

theorem bytes_one (e : TranscriptEntry) (part : List UInt8) : Records.bytes [(e, part)] = part :=
  List.append_nil part

/-- an append adds its record, or a part of it -/
theorem appendTranscript_keeps (path : String) (io : AppendIo) (e : TranscriptEntry)
    (file : List UInt8) : ∃ answer part, part <+: e.record ∧ (answer = .ok () → part = e.record) ∧
      appendTranscript path io e file = (answer, file ++ part) := by
  cases hopened : io.opened with
  | some reason =>
    refine ⟨.error (.internal s!"cannot open transcript {path}: {reason}"), [], List.nil_prefix,
      nofun, ?_⟩
    simp only [appendTranscript, hopened, List.append_nil]
  | none =>
    obtain hline | ⟨k, reason, hlt, hline⟩ := writeAll_cases e.line io.line
    · obtain hnewline | ⟨k, reason, hlt, hnewline⟩ := writeAll_cases [(0x0a : UInt8)] io.newline
      · refine ⟨.ok (), e.record, List.prefix_refl _, fun _ => rfl, ?_⟩
        simp only [appendTranscript, hopened, hline, hnewline, List.append_assoc]
        rfl
      · obtain rfl : k = 0 := Nat.lt_one_iff.mp hlt
        refine ⟨.error (.internal s!"cannot write transcript: {reason}"), e.line,
          List.prefix_append _ _, nofun, ?_⟩
        simp only [appendTranscript, hopened, hline, hnewline, List.take_zero, List.append_nil]
    · refine ⟨.error (.internal s!"cannot write transcript: {reason}"), e.line.take k,
        (List.take_prefix _ _).trans (List.prefix_append _ _), nofun, ?_⟩
      simp only [appendTranscript, hopened, hline]

/-- a call hands its record to the writer, or a part of it; after a flush nothing is held back -/
theorem Call.run_keeps (call : Call) (w : Writer UInt8) : ∃ answer w' log,
    call.run ⟨some w⟩ = (answer, ⟨some w'⟩) ∧ Keeps call.entries (answer = .ok ()) log ∧
      w.file <+: w'.file ∧ w'.stream = w.stream ++ Records.bytes log ∧
      ((∃ stop, call = .flush stop) → answer = .ok () → w'.buffer = []) := by
  cases call with
  | flush stop =>
    obtain ⟨hgrows, hstream, hempty⟩ := w.flushBuf_spec stop
    cases hflush : w.flushBuf stop with
    | mk w' failure =>
      rw [hflush] at hgrows hstream hempty
      have hnil : w'.stream = w.stream ++ Records.bytes ([] : TranscriptLog) :=
        hstream.trans (List.append_nil _).symm
      cases failure with
      | none =>
        refine ⟨.ok (), w', [], ?_, .nil, hgrows, hnil, fun _ _ => hempty rfl⟩
        simp only [Call.run, TranscriptWriter.flush, hflush]
      | some reason =>
        refine ⟨.error (.internal s!"cannot flush transcript: {reason}"), w', [], ?_, .nil, hgrows,
          hnil, fun _ => nofun⟩
        simp only [Call.run, TranscriptWriter.flush, hflush]
  | write e line newline =>
    obtain ⟨part, hline⟩ :=
      w.write_takes TranscriptWriter.capacity e.line line.flushing line.writing
    cases hfirst : w.write TranscriptWriter.capacity e.line line.flushing line.writing with
    | mk w' failure =>
    rw [hfirst] at hline
    cases failure with
    | some reason =>
      have hstopped := hline.stopped [0x0a]
      refine ⟨.error (.internal s!"cannot write transcript: {reason}"), w', [(e, part)], ?_,
        .one hstopped.isPrefix nofun, hstopped.grows, ?_, fun _ => nofun⟩
      · simp only [Call.run, TranscriptWriter.write, hfirst]
      · rw [bytes_one]
        exact hstopped.stream
    | none =>
      obtain ⟨ending, hnewline⟩ :=
        w'.write_takes TranscriptWriter.capacity [0x0a] newline.flushing newline.writing
      cases hsecond : w'.write TranscriptWriter.capacity [0x0a] newline.flushing
        newline.writing with
      | mk w'' failure =>
      rw [hsecond] at hnewline
      have hboth := hline.andThen hnewline
      have hstream : w''.stream = w.stream ++ Records.bytes [(e, e.line ++ ending)] := by
        rw [bytes_one]
        exact hboth.stream
      cases failure with
      | none =>
        refine ⟨.ok (), w'', [(e, e.line ++ ending)], ?_,
          .one hboth.isPrefix fun _ => hboth.whole.mpr rfl, hboth.grows, hstream, ?_⟩
        · simp only [Call.run, TranscriptWriter.write, hfirst, hsecond]
        · rintro ⟨_, h⟩
          cases h
      | some reason =>
        refine ⟨.error (.internal s!"cannot write transcript: {reason}"), w'',
          [(e, e.line ++ ending)], ?_, .one hboth.isPrefix nofun, hboth.grows, hstream,
          fun _ => nofun⟩
        simp only [Call.run, TranscriptWriter.write, hfirst, hsecond]

theorem runCalls_keeps (calls : List Call) (w : Writer UInt8) : ∃ answers w' log,
    runCalls calls ⟨some w⟩ = (answers, ⟨some w'⟩) ∧
      Keeps (calls.flatMap Call.entries) (∀ answer ∈ answers, answer = .ok ()) log ∧
      w.file <+: w'.file ∧ w'.stream = w.stream ++ Records.bytes log ∧
      ((∃ stop, calls.getLast? = some (.flush stop)) → (∀ answer ∈ answers, answer = .ok ()) →
        w'.buffer = []) := by
  induction calls generalizing w with
  | nil =>
    refine ⟨[], w, [], rfl, .nil, List.prefix_refl _, (List.append_nil _).symm, ?_⟩
    rintro ⟨_, h⟩
    cases h
  | cons call calls ih =>
    obtain ⟨answer, w', log, hcall, hlog, hgrows, hstream, hflushed⟩ := call.run_keeps w
    obtain ⟨answers, w'', log', hcalls, hlog', hgrows', hstream', hflushed'⟩ := ih w'
    refine ⟨answer :: answers, w'', log ++ log', ?_, ?_, hgrows.trans hgrows', ?_, ?_⟩
    · simp only [runCalls, hcall, hcalls]
    · rw [List.flatMap_cons]
      exact (hlog.append hlog').mono List.forall_mem_cons.mp
    · rw [hstream', hstream, Records.bytes_append, List.append_assoc]
    · rintro ⟨stop, hlast⟩ hall
      obtain ⟨hanswer, hanswers⟩ := List.forall_mem_cons.mp hall
      cases calls with
      | nil =>
        obtain ⟨-, rfl⟩ : answers = [] ∧ w' = w'' := by
          have heq : (([] : List (Except CoreError Unit)), (⟨some w'⟩ : TranscriptWriter))
              = (answers, ⟨some w''⟩) := hcalls
          obtain ⟨rfl, hw⟩ := Prod.mk.inj heq
          exact ⟨rfl, Option.some.inj (TranscriptWriter.mk.inj hw)⟩
        obtain rfl : call = .flush stop := Option.some.inj hlast
        exact hflushed ⟨stop, rfl⟩ hanswer
      | cons next calls =>
        rw [List.getLast?_cons_cons] at hlast
        exact hflushed' ⟨stop, hlast⟩ hanswers

/-- a session adds its records to the file, or what is left of them -/
theorem Recording.run_keeps (s : Recording) (path : String) (file : List UInt8) :
    ∃ log, Keeps s.entries (s.Confirmed (s.run path file).1) log ∧
      (s.run path file).2 = file ++ Records.bytes log := by
  cases s with
  | append e io =>
    obtain ⟨answer, part, hcut, hwhole, happend⟩ := appendTranscript_keeps path io e file
    have hrun : Recording.run path (.append e io) file = ([answer], file ++ part) := by
      simp only [Recording.run, happend]
    rw [hrun]
    refine ⟨[(e, part)], .one hcut fun h => hwhole (h.1 _ List.mem_cons_self), ?_⟩
    rw [bytes_one]
  | batch opened calls dropped =>
    cases opened with
    | some reason => exact ⟨[], .nil, (List.append_nil _).symm⟩
    | none =>
      obtain ⟨answers, w, log, hcalls, hlog, hgrows, hstream, hflushed⟩ :=
        runCalls_keeps calls ⟨file, []⟩
      have hrun : Recording.run path (.batch none calls dropped) file
          = (answers, w.close dropped) := by
        simp only [Recording.run, TranscriptWriter.append, hcalls]
      have hstart : (⟨file, []⟩ : Writer UInt8).stream = file := List.append_nil file
      obtain ⟨hclose, hempty⟩ := w.close_prefix dropped
      rw [hstart] at hstream
      -- what was in the file before is still there
      obtain ⟨added, hadded⟩ : file <+: w.close dropped :=
        hgrows.trans (w.close_grows dropped)
      rw [hrun]
      by_cases hwell : Recording.Confirmed (.batch none calls dropped) answers
      · refine ⟨log, hlog.mono fun h => h.1, ?_⟩
        rw [hempty (hflushed hwell.2 hwell.1), hstream]
      · rw [← hadded, hstream, List.prefix_append_right_inj] at hclose
        obtain ⟨log', hentries, hcut, hbytes⟩ := Records.exists_log_of_prefix hlog.isCut hclose
        refine ⟨log', ⟨hentries.trans hlog.entries, hcut, fun h => absurd h hwell⟩, ?_⟩
        rw [hbytes, hadded]

/-- so does a history -/
theorem runAll_keeps (path : String) (recordings : List Recording) (file : List UInt8) :
    ∃ logs : List TranscriptLog,
      List.Forall₂ (fun (q : Recording × List (Except CoreError Unit)) log =>
        Keeps q.1.entries (q.1.Confirmed q.2) log)
        (recordings.zip (runAll path recordings file).1) logs ∧
      Keeps (recordings.flatMap Recording.entries)
        (∀ q ∈ recordings.zip (runAll path recordings file).1, q.1.Confirmed q.2) logs.flatten ∧
      (runAll path recordings file).2 = file ++ Records.bytes logs.flatten := by
  induction recordings generalizing file with
  | nil => exact ⟨[], .nil, .nil, (List.append_nil _).symm⟩
  | cons s recordings ih =>
    obtain ⟨log, hlog, hfile⟩ := s.run_keeps path file
    obtain ⟨logs, hlogs, hall, hfiles⟩ := ih (s.run path file).2
    refine ⟨log :: logs, .cons hlog hlogs, (hlog.append hall).mono List.forall_mem_cons.mp, ?_⟩
    show (runAll path recordings (s.run path file).2).2 = _
    rw [hfiles, hfile, List.flatten_cons, Records.bytes_append, List.append_assoc]

/-- **What can be read of a transcript**, after any history of appends and writers over a file that
was not there, wherever their writes stopped.  What is left of each session's records is in the
file, in order, and everything is left of a session that was confirmed.  The lines of entries are
those of the intact records: never another line, none out of order, and each record that was cut
short spoils at most one that was not. -/
theorem transcript_read (path : String) (recordings : List Recording) :
    ∃ logs : List TranscriptLog,
      List.Forall₂ (fun (q : Recording × List (Except CoreError Unit)) log =>
        Keeps q.1.entries (q.1.Confirmed q.2) log)
        (recordings.zip (runAll path recordings []).1) logs ∧
      (runAll path recordings []).2 = Records.bytes logs.flatten ∧
      ∃ intact : List TranscriptEntry,
        Records.read TranscriptEntry.line 0x0a (runAll path recordings []).2
          = intact.map TranscriptEntry.line ∧
        intact = Records.intact TranscriptEntry.line 0x0a false logs.flatten ∧
        intact.Sublist (recordings.flatMap Recording.entries) ∧
        logs.flatten.countP (Records.Whole TranscriptEntry.line 0x0a)
          ≤ intact.length + logs.flatten.countP (Records.Torn TranscriptEntry.line 0x0a) ∧
        ((∀ q ∈ recordings.zip (runAll path recordings []).1, q.1.Confirmed q.2) →
          intact = recordings.flatMap Recording.entries) := by
  obtain ⟨logs, hlogs, hall, hfile⟩ := runAll_keeps path recordings []
  rw [List.nil_append] at hfile
  refine ⟨logs, hlogs, hfile, _, ?_, rfl, ?_, ?_, fun hconfirmed => ?_⟩
  · rw [hfile]
    exact Records.read_bytes (t := []) false TranscriptEntry.framed hall.isCut List.not_mem_nil rfl
  · rw [← hall.entries]
    exact Records.intact_sublist
  · exact Records.countP_whole_le false
  · rw [← hall.entries]
    exact Records.intact_of_whole (hall.whole hconfirmed)

end Crucible
