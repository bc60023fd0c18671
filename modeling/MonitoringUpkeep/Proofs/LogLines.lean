import MonitoringUpkeep.Log.Call
import MonitoringUpkeep.Proofs.Classification
import MonitoringUpkeep.Proofs.JsonText

/-!
# Lines of the log decode to redacted records

A line of the log is one line of printable ASCII, whatever the texts in it are, and as JSON text it is an
object with the time, the severity, the logger and the message of the record, and with the text of its
failure if there is one. Secrets are taken out of the message and of that text, whatever it is; the rest
is as given.
-/

namespace MonitoringUpkeep

/-- The fields that a line of the log stands for. -/
def lineFields (stamp : String) (level : Value) (logger message : String) (failure : Option String) :
    Fields :=
  [("ts", .str stamp), ("level", level), ("logger", .str logger),
    ("msg", .str (Redaction.redact message))]
  ++ match failure with
    | some text => [("error", .str (Redaction.redact text))]
    | none => []

theorem lineFields_nodup (stamp : String) (level : Value) (logger message : String)
    (failure : Option String) :
    ((lineFields stamp level logger message failure).map Prod.fst).Nodup := by
  cases failure <;> simp [lineFields]

namespace Json

/-- What is written for a severity: a name or a number. -/
inductive Plain : Value → Prop
  | text (s : String) : Plain (.str s)
  | number (n : Int) : Plain (.int n)

theorem Plain.reads {v : Value} (plain : Plain v) : Reads (write v) v := by
  cases plain with
  | text s =>
    rw [write]
    exact reads_text s
  | number n =>
    rw [write]
    exact reads_int n

theorem Plain.printable {v : Value} (plain : Plain v) : Printable (write v) := by
  cases plain with
  | text s =>
    rw [write]
    exact printable_writeSymbols _
  | number n =>
    rw [write]
    exact printable_int n

/-- The text of characters is the same whatever type of symbols they are taken as. -/
theorem writeSymbols_map {α : Type} [Symbol α] {f : Char → α} (same : ∀ c, Symbol.code (f c) = c.toNat)
    (cs : List Char) : writeSymbols (cs.map f) = writeSymbols cs := by
  simp only [writeSymbols, List.flatMap_map, same]
  rfl

end Json

/-- A line of the log is printable, whatever symbols its message is made of. -/
theorem logLine_printable {α : Type} [Symbol α] (stamp : String) {level : Value}
    (plain : Json.Plain level) (logger : String) (message : List α) (failure : Option String) :
    Json.Printable (logLine stamp level (.str logger) message failure).toList := by
  have text (s : String) : Json.Printable (Json.writeText s) := Json.printable_writeSymbols _
  have front := plain.printable
  have name := (Json.Plain.text logger).printable
  have body := Json.printable_writeSymbols (Redaction.redactSymbols message)
  unfold logLine
  rw [String.toList_ofList]
  refine Json.printable_writeObject ?_
  cases failure with
  | none => simp [text, front, name, body]
  | some failure => simp [text, front, name, body]

/-- A line of the log with a message of characters decodes to its fields. -/
theorem logLine_decodes (stamp : String) {level : Value} (plain : Json.Plain level)
    (logger message : String) (failure : Option String) :
    Json.parse? (logLine stamp level (.str logger) message.toList failure) =
      some (.obj (lineFields stamp level logger message failure)) := by
  have member (k s : String) : Json.Member (k, Json.writeText s) (k, .str s) :=
    ⟨rfl, Json.reads_text s⟩
  have redacted : Json.writeSymbols (Redaction.redactSymbols message.toList) =
      Json.writeText (Redaction.redact message) := by
    rw [Json.writeText, Redaction.redact, String.toList_ofList]
  have name : Json.write (.str logger) = Json.writeText logger := by rw [Json.write]
  unfold logLine
  rw [redacted, name]
  refine Json.parse?_writeObject ?_ (by simp) (lineFields_nodup ..)
  unfold lineFields
  refine List.rel_append ?_ ?_
  · exact .cons (member ..) (.cons ⟨rfl, plain.reads⟩ (.cons (member ..) (.cons (member ..) .nil)))
  · cases failure with
    | none => exact .nil
    | some failure => exact .cons (member ..) .nil

/-- A severity shows as a name or as a number. -/
theorem Level.label_plain {v level : Value} (labelled : Level.label v = .ok level) :
    Json.Plain level := by
  unfold Level.label at labelled
  split at labelled
  · cases labelled
  · cases labelled
  · split at labelled
    · cases labelled
      exact .text _
    · cases labelled
      exact .number _
    · cases labelled
      exact .text _

/-- A message of characters makes the same line whatever type of symbols they are taken as. -/
theorem logLine_char (stamp : String) (level logger : Value) (message : List Char)
    (failure : Option String) :
    logLine stamp level logger (message.map TextUnit.char) failure =
      logLine stamp level logger message failure := by
  have redacted : Redaction.redactSymbols (message.map TextUnit.char) =
      (Redaction.redactSymbols message).map .char :=
    Redaction.redactSymbols_map (f := TextUnit.char) (fun _ => rfl) (fun _ => rfl) message
  unfold logLine
  rw [redacted, Json.writeSymbols_map fun _ => rfl]

/-- A record of the log is written as a printable line that decodes to it, however its failure is put
    into words. -/
theorem LogRecord.line_reads (r : LogRecord) (text : Failure → String) (stamp : String) :
    Json.Printable (r.line text stamp).toList ∧ Json.parse? (r.line text stamp) =
      some (.obj (lineFields stamp (Level.name r.level) r.logger r.message (r.failure.map text))) :=
  ⟨logLine_printable stamp (.text _) r.logger r.message.toList _,
    logLine_decodes stamp (.text _) r.logger r.message _⟩

/-- A call of the log whose message can be filled in, at a time that can be shown, is written as a line of
    printable characters. With a message of characters the line decodes to the time, the severity and the
    logger of the call, to its redacted message, and to the redacted text of its failure if there is one.
    Without such a time there is no line. -/
theorem LogCall.line_decodes {c : LogCall} {logger : String} {level : Value} {units : List TextUnit}
    (named : c.logger = .str logger) (labelled : Level.label c.level = .ok level)
    (formatted : Template.render c.template.display c.arguments = .ok units) :
    (∀ stamp, Calendar.timestamp c.seconds c.milliseconds = .ok stamp →
      ∃ line, c.line = .ok line ∧ (∀ x ∈ line.toList, 0x20 ≤ x.toNat ∧ x.toNat ≤ 0x7e) ∧
        ∀ message : List Char, units = message.map .char → Json.parse? line = some (.obj
          ([("ts", .str stamp), ("level", level), ("logger", .str logger),
            ("msg", .str (Redaction.redact (String.ofList message)))]
          ++ match c.failure with
            | some text => [("error", .str (Redaction.redact text))]
            | none => []))) ∧
    ∀ f, Calendar.timestamp c.seconds c.milliseconds = .error f → c.line = .error f := by
  have plain := Level.label_plain labelled
  constructor
  · intro stamp stamped
    have written : c.line = .ok (logLine stamp level (.str logger) units c.failure) := by
      simp only [LogCall.line, labelled, stamped, formatted, named]
      rfl
    refine ⟨_, written, logLine_printable stamp plain logger units c.failure, ?_⟩
    rintro message rfl
    have decodes := logLine_decodes stamp plain logger (String.ofList message) c.failure
    rwa [String.toList_ofList, ← logLine_char] at decodes
  · intro f refused
    simp only [LogCall.line, labelled, refused]
    rfl

/-- The text of a failure about a password, with the place that it was raised at. -/
def raisedText (password : String) : String :=
  "Traceback (most recent call last):\n  File \"<stdin>\", line 1\nValueError: password: " ++ password

/-- A message with a secret, quotes, a line break and a character beyond the 16-bit range, and a failure
    with the place that it was raised at. -/
def loudCall : LogCall where
  level := .int 40
  logger := "test"
  template := "token=%s said \"\\\n😀\""
  arguments := [.str "abc123"]
  seconds := .int 1700000000
  milliseconds := .int 7
  failure := some (raisedText "hunter2")

theorem LogCall.line_decodes_loud :
    ∃ line, loudCall.line = .ok line ∧ (∀ x ∈ line.toList, 0x20 ≤ x.toNat ∧ x.toNat ≤ 0x7e) ∧
      Json.parse? line = some (.obj [("ts", .str "2023-11-14 22:13:20,007"), ("level", .str "ERROR"),
        ("logger", .str "test"), ("msg", .str "token=[REDACTED] said \"\\\n😀\""),
        ("error", .str (raisedText "[REDACTED]"))]) := by
  have named : loudCall.logger = .str "test" := rfl
  have labelled : Level.label loudCall.level = .ok (.str "ERROR") := rfl
  have formatted : Template.render loudCall.template.display loudCall.arguments =
      .ok ("token=abc123 said \"\\\n😀\"".toList.map .char) := rfl
  obtain ⟨line, written, printable, fields⟩ :=
    (LogCall.line_decodes named labelled formatted).1 "2023-11-14 22:13:20,007" rfl
  have message : Redaction.redact (String.ofList "token=abc123 said \"\\\n😀\"".toList) =
      "token=[REDACTED] said \"\\\n😀\"" := by decide +kernel
  have failure : Redaction.redact (raisedText "hunter2") = raisedText "[REDACTED]" := by
    decide +kernel
  refine ⟨line, written, printable, (fields _ rfl).trans ?_⟩
  simp only [loudCall, message, failure, List.cons_append, List.nil_append]

end MonitoringUpkeep
