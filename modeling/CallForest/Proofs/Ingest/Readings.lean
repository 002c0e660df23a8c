import CallForest.Proofs.Ingest.Passes

/-!
# What passes ask and read

Three passes ask a collaborator about every file that is there, each for raw output of a kind of its
own (`call`). What they ask for comes to what is made of the texts that they get (`ask_eq`), so the
intakes of a pass are known from its `readings`: the files for which a text was given, in the order
of the list, with their texts (`intakes_turns`).
-/

namespace CallForest

/-- The pass that asks for output of a kind. -/
def DumpKind.pass : DumpKind → Pass
  | edges => .edges
  | functions => .functions
  | complexity => .complexity

namespace Ingest

/-- What a pass asks of its collaborator. -/
def call (w : Workshop) : DumpKind → (source : String) → FileSystem → Reply String
  | .edges => w.extractor.listing .callTree
  | .functions => w.extractor.listing .crossReference
  | .complexity => w.analyzer.report

/-- What is made of a text that a collaborator gives for a file. -/
def intakeOf (w : Workshop) : DumpKind → SourceEntry → String → Intake
  | .edges, _, listing => .calls w.skip listing
  | .functions, entry, listing => .functions ((Xref.definitions listing).map (recordOf entry))
  | .complexity, _, report => .measurements (Report.measurements report)

theorem ask_eq (w : Workshop) (kind : DumpKind) (entry : SourceEntry) (fs : FileSystem) :
    ask w kind.pass entry fs =
      readReply w kind entry (intakeOf w kind entry) (call w kind entry.fullPath fs) := by
  cases kind <;> rfl

/-- A listed file, and the text that a collaborator gave for it. -/
structure Reading where
  entry : SourceEntry
  text : String
  deriving DecidableEq, Repr

/-- The files that are there when it is their turn, and for which the collaborator has a text. -/
def readings (w : Workshop) (kind : DumpKind) : List SourceEntry → FileSystem → List Reading
  | [], _ => []
  | entry :: entries, fs =>
    if entry.isPresent fs then
      let reply := call w kind entry.fullPath fs
      match reply.answer with
      | .ok text =>
        ⟨entry, text⟩ :: readings w kind entries
          (w.logDirectory.dump kind entry.shortPath text reply.files).1
      | .error _ => readings w kind entries reply.files
    else readings w kind entries fs

section Turns

variable {w : Workshop} {kind : DumpKind} {entry : SourceEntry} {fs : FileSystem}

/-- The intakes of a pass are made of its readings. -/
theorem intakes_turns (w : Workshop) (kind : DumpKind) (entries : List SourceEntry)
    (fs : FileSystem) :
    intakes (turns (ask w kind.pass) entries fs) =
      (readings w kind entries fs).map fun r => intakeOf w kind r.entry r.text := by
  induction entries generalizing fs with
  | nil => rfl
  | cons entry entries ih =>
      rw [turns, takeTurn, readings, intakes_cons]
      split
      · simp only [ask_eq, readReply]
        cases (call w kind entry.fullPath fs).answer with
        | ok text => exact congrArg (_ :: ·) (ih _)
        | error e => exact ih _
      · exact ih fs

/-- A turn ends the pass if the file is there and the collaborator is missing. -/
theorem fatal?_takeTurn {program : String} {cause : OsError} (hpresent : entry.isPresent fs)
    (hanswer : (call w kind entry.fullPath fs).answer = .error (.missing program cause)) :
    (takeTurn (ask w kind.pass) entry fs).1.fatal? = some (.missing program cause) := by
  rw [takeTurn, if_pos hpresent]
  simp only [Turn.fatal?, ask_eq, readReply, hanswer]

/-- Such a turn leaves the files as the collaborator does. -/
theorem files_takeTurn {e : CollaboratorError} (hpresent : entry.isPresent fs)
    (hanswer : (call w kind entry.fullPath fs).answer = .error e) :
    (takeTurn (ask w kind.pass) entry fs).2 = (call w kind entry.fullPath fs).files := by
  rw [takeTurn, if_pos hpresent]
  simp only [ask_eq, readReply, hanswer]

end Turns

end Ingest

end CallForest
