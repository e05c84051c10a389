import StyleAudit.Audit
import StyleAudit.Proofs.Icons

/-!
# Results on output streams

Whether a result can be written is a matter of the characters that its stream is given to encode
(`RunResult.Writable`). A result that can be written ends the run with its own status
(`RunResult.writeTo_of_writable`); one that cannot ends it with a failure that nothing catches, and
`RunResult.Blocks` says which one. A stream of UTF-8 takes every result.
-/

namespace StyleAudit

theorem mapM_eq_ok {ε α : Type} {f : α → Except ε α} (kept : ∀ a, f a = .ok a) (l : List α) :
    l.mapM f = .ok l := by
  rw [mapM_eq_ok_map kept, List.map_id']

theorem Stream.write_eq_ok_iff {stream : Stream} {text : String} :
    stream.write text = .ok () ↔ ∀ c ∈ text.toList, stream.encodes c = true := by
  unfold write
  cases found : text.toList.find? fun c => !stream.encodes c with
  | none => simpa using List.find?_eq_none.1 found
  | some c =>
      have bad : stream.encodes c = false := by simpa using List.find?_some found
      simp only [reduceCtorEq, false_iff, not_forall]
      exact ⟨c, List.mem_of_find?_eq_some found, by simp [bad]⟩

theorem Stream.exists_unencodable {stream : Stream} {text : String}
    (fails : stream.write text ≠ .ok ()) :
    ∃ c ∈ text.toList, stream.encodes c = false ∧ stream.write text = .error (.unencodable c) := by
  unfold write at fails ⊢
  cases found : text.toList.find? fun c => !stream.encodes c with
  | none => exact absurd (by rw [found]) fails
  | some c =>
      exact ⟨c, List.mem_of_find?_eq_some found, by simpa using List.find?_some found, rfl⟩

/-! ## Results on terminals -/

def Display.withoutIcons : Display → Display
  | .print objects => .print (objects.map Printed.withoutIcons)
  | .progress bar => .progress bar

namespace RunResult

variable {terminal : Terminal}

theorem shownOn_of_showsAll (complete : terminal.showsAll = .ok true) (result : RunResult)
    (platform : String) : result.shownOn terminal platform = .ok result := by
  have console : Console.open_ terminal platform = .ok ⟨false, false⟩ := by
    unfold Console.open_
    rw [complete]
    rfl
  unfold shownOn
  rw [console]
  simp only [bind, Except.bind]
  rw [mapM_eq_ok]
  · rfl
  · intro display
    cases display <;> rfl

theorem shownOn_of_encoding {name : String} (encoding : terminal.encoding = .ok name)
    (other : Terminal.isUtf8Name name = false) (result : RunResult) (platform : String) :
    result.shownOn terminal platform =
      .ok { result with shown := result.shown.map Display.withoutIcons } := by
  unfold shownOn
  rw [open_of_encoding encoding other]
  simp only [bind, Except.bind]
  rw [mapM_eq_ok_map]
  · rfl
  · intro display
    cases display with
    | print objects =>
        have printed : Console.print ⟨true, platform == "win32"⟩ terminal objects =
            .ok (objects.map Printed.withoutIcons) :=
          print_of_encoding rfl encoding other objects
        simp only [printed]
        rfl
    | progress bar => rfl

/-- A result can be shown as soon as the encoding of the terminal is known. -/
theorem exists_shownOn {name : String} (encoding : terminal.encoding = .ok name) (result : RunResult)
    (platform : String) :
    ∃ fit, result.shownOn terminal platform = .ok fit ∧ fit.status = result.status := by
  cases other : Terminal.isUtf8Name name with
  | false => exact ⟨_, shownOn_of_encoding encoding other result platform, rfl⟩
  | true =>
      have complete : terminal.showsAll = .ok true := by
        unfold Terminal.showsAll
        rw [encoding, ← other]
        rfl
      exact ⟨result, shownOn_of_showsAll complete result platform, rfl⟩

theorem shownOn_of_error {failure : LocaleFailure} (unknown : terminal.encoding = .error failure)
    (result : RunResult) (platform : String) :
    result.shownOn terminal platform = .error failure := by
  unfold shownOn Console.open_ Terminal.showsAll
  rw [unknown]
  rfl

/-! ## Results that can be written -/

variable {result : RunResult} {lib : Libraries} {stream : Stream}

/-- The terminal takes what is shown, and the stream can encode all that it is then given. -/
def Writable (result : RunResult) (lib : Libraries) (stream : Stream) : Prop :=
  ∃ fit, result.shownOn stream.terminal stream.platform = .ok fit ∧
    ∀ c ∈ (fit.written lib stream.terminal).toList, stream.encodes c = true

/-- Why a result cannot be written: the encoding of the terminal could not be found out, or a character
has no encoding. -/
inductive Blocks (result : RunResult) (lib : Libraries) (stream : Stream) : Escape → Prop where
  | system {failure : LocaleFailure} (unknown : stream.terminal.encoding = .error failure) :
      Blocks result lib stream (.system failure.reason)
  | unencodable {fit : RunResult} {c : Char}
      (shown : result.shownOn stream.terminal stream.platform = .ok fit)
      (given : c ∈ (fit.written lib stream.terminal).toList) (bad : stream.encodes c = false) :
      Blocks result lib stream (.unencodable c)

theorem writeTo_of_shownOn {fit : RunResult}
    (shown : result.shownOn stream.terminal stream.platform = .ok fit) :
    result.writeTo lib stream =
      (stream.write (fit.written lib stream.terminal)).map fun _ => fit.status := by
  unfold writeTo
  simp only [shown, Except.mapError, bind, Except.bind]
  cases stream.write (fit.written lib stream.terminal) <;> rfl

theorem status_of_shownOn {fit : RunResult} {platform : String}
    (shown : result.shownOn terminal platform = .ok fit) : fit.status = result.status := by
  cases encoding : terminal.encoding with
  | error failure => cases shown.symm.trans (shownOn_of_error encoding result platform)
  | ok name =>
      obtain ⟨other, shownToo, same⟩ := exists_shownOn encoding result platform
      cases shown.symm.trans shownToo
      exact same

theorem writeTo_of_writable (writable : result.Writable lib stream) :
    result.writeTo lib stream = .ok result.status := by
  obtain ⟨fit, shown, encoded⟩ := writable
  rw [writeTo_of_shownOn shown, Stream.write_eq_ok_iff.2 encoded, status_of_shownOn shown]
  rfl

theorem exists_escape (blocked : ¬ result.Writable lib stream) :
    ∃ escape, result.writeTo lib stream = .error escape ∧ result.Blocks lib stream escape := by
  cases encoding : stream.terminal.encoding with
  | error failure =>
      refine ⟨.system failure.reason, ?_, .system encoding⟩
      unfold writeTo
      rw [shownOn_of_error encoding]
      rfl
  | ok name =>
      obtain ⟨fit, shown, -⟩ := exists_shownOn encoding result stream.platform
      have fails : stream.write (fit.written lib stream.terminal) ≠ .ok () := fun written =>
        blocked ⟨fit, shown, Stream.write_eq_ok_iff.1 written⟩
      obtain ⟨c, given, bad, refused⟩ := Stream.exists_unencodable fails
      refine ⟨.unencodable c, ?_, .unencodable shown given bad⟩
      rw [writeTo_of_shownOn shown, refused]
      rfl

theorem writable_of_showsAll (complete : stream.terminal.showsAll = .ok true)
    (encodes : ∀ c, stream.encodes c = true) : result.Writable lib stream :=
  ⟨result, shownOn_of_showsAll complete result stream.platform, fun c _ => encodes c⟩

theorem written_of_shown_eq_nil (nothing : result.shown = []) :
    result.written lib terminal =
      if result.output.isEmpty then "" else lib.echoed terminal result.output := by
  rw [written, nothing]
  exact String.empty_append

end RunResult

end StyleAudit
