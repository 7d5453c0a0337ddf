import Stencil.Proofs.Sink.Utf8
import Stencil.Proofs.Target.Source

/-! Sources on the sink of files: what a committed text leaves on the disk, and what committing it
again over its own file comes to. -/

namespace Stencil

/-- A refusal of the system is not a destination that counts as created. -/
theorem Refusal.kind_ne_destinationExists (refusal : Refusal) :
    refusal.kind ≠ .destinationExists := by
  cases refusal <;> nofun

namespace FileSettings

/-- The path of a source file. -/
def sourcePath (settings : FileSettings) (suffix : String) (key : TargetKey) : Path :=
  settings.resolve .sources key.package (key.name ++ suffix)

/-- The bytes of a single text. -/
theorem encodeAll_singleton (encoding : Encoding) (text : String) :
    encodeAll encoding [text] = encoding.encode text := by
  -- No bytes follow those of the text.
  cases encoded : encoding.encode text <;>
    simp [encodeAll, encoded, Bind.bind, Except.bind, Pure.pure, Except.pure]

/-- A path counts as created, with the reason for it and the paths that do so from now on. -/
inductive Occupies (settings : FileSettings) (path : Path) (state : FileState) :
    Failure → List Path → Prop where
  /-- It was opened in the same pass. -/
  | thisPass (known : path ∈ state.created) :
      Occupies settings path state (.occupied (.thisPass path)) state.created
  /-- An incremental pass finds it on the disk, and notes it. -/
  | earlierBuild (new : path ∉ state.created) (incremental : settings.incremental = true)
      (there : state.disk.pathExists path = .ok true) :
      Occupies settings path state (.occupied (.earlierBuild path)) (state.created ++ [path])

/-- A path that counts as created is known from then on. -/
theorem Occupies.known {settings : FileSettings} {path : Path} {state : FileState}
    {reason : Failure} {created : List Path}
    (occupies : Occupies settings path state reason created) : path ∈ created := by
  cases occupies with
  | thisPass known => exact known
  | earlierBuild => simp

/-- No path but the one that counts as created has come to do so. -/
theorem Occupies.more {settings : FileSettings} {path : Path} {state : FileState}
    {reason : Failure} {created : List Path}
    (occupies : Occupies settings path state reason created) :
    created = state.created ∨ created = state.created ++ [path] := by
  cases occupies with
  | thisPass => exact Or.inl rfl
  | earlierBuild => exact Or.inr rfl

/-- A destination that is refused as created changes at most the list of created paths. -/
theorem writeTo_occupied {settings : FileSettings} {place : Place} {package name : String}
    {texts : List String} {outlet refused : Outlet FileState} {failure : Failure}
    (wrote : settings.sink.writeTo place package name texts outlet = (.error failure, refused))
    (occupied : failure.kind = .destinationExists) :
    ∃ created log, refused = ⟨{ outlet.state with created }, outlet.diagnostics, log⟩ ∧
      Occupies settings (settings.resolve place package name) outlet.state failure created := by
  -- Writing was refused, so it was not opened or a text had no bytes.
  obtain ⟨result, state, log, same, writing⟩ :=
    writeTo_writing settings place package name texts outlet
  rw [wrote] at same
  cases same
  -- Neither the system nor an encoding refuses with this kind.
  cases writing with
  | unopened opening =>
    cases opening with
    | repeated known => exact ⟨_, log, rfl, .thisPass known⟩
    | existing new incremental _ there => exact ⟨_, log, rfl, .earlierBuild new incremental there⟩
    | refused => exact absurd occupied (Refusal.kind_ne_destinationExists _)
  | spoiled => cases occupied

/-- In an incremental pass, a source is not written over a file that is there. -/
theorem writeTo_there {settings : FileSettings} (utf8 : settings.encoding = .utf8)
    (incremental : settings.incremental = true) {package name : String} (texts : List String)
    {outlet : Outlet FileState}
    (there : outlet.state.disk.pathExists (settings.resolve .sources package name) = .ok true) :
    ∃ failure refused, settings.sink.writeTo .sources package name texts outlet =
      (.error failure, refused) ∧ failure.kind = .destinationExists := by
  obtain ⟨result, state, log, wrote, writing⟩ :=
    writeTo_writing settings .sources package name texts outlet
  -- Being there, the file is neither opened anew nor refused by the system.
  cases writing with
  | unopened opening =>
    cases opening with
    | repeated | existing => exact ⟨_, _, wrote, rfl⟩
    | refused _ absent => exact absurd there (absent incremental rfl)
  | spoiled _ unencoded =>
    rw [utf8, encodeAll_utf8] at unencoded
    cases unencoded
  | written _ absent => exact absurd there (absent incremental rfl)

end FileSettings

namespace SourceTarget

/-- What a commit of a source leaves behind on the sink of files. -/
inductive FileEmission (settings : FileSettings) (key : TargetKey) (fileName text : String)
    (outlet : Outlet FileState) : Artifact → Outlet FileState → Prop where
  /-- The path is new: its file holds the bytes of the text, it is listed as created and as written,
  no other file changes, and nothing is reported. -/
  | fresh {path : Path} {bytes : ByteArray} {location : Location} {later : Disk}
      {log : List LogRecord} (resolved : settings.resolve .sources key.package fileName = path)
      (new : path ∉ outlet.state.created)
      (absent : settings.incremental = true → outlet.state.disk.pathExists path ≠ .ok true)
      (encoded : settings.encoding.encode text = .ok bytes)
      (kept : Disk.Keeps (· = location) outlet.state.disk later)
      (found : later.find path = .ok location) (held : later.fileAt? location = some bytes) :
      FileEmission settings key fileName text outlet ⟨key, .source, false, false⟩
        ⟨⟨later, outlet.state.created ++ [path], outlet.state.written ++ [path]⟩,
          outlet.diagnostics, log⟩
  /-- The path counts as created, and the file that is read back holds the text: no file changes,
  nothing is listed as written, and one warning is reported. -/
  | regenerated {path : Path} {reason : Failure} {bytes : ByteArray} {created : List Path}
      {log : List LogRecord} (resolved : settings.resolve .sources key.package fileName = path)
      (occupies : FileSettings.Occupies settings path outlet.state reason created)
      (read : outlet.state.disk.readFile
        (settings.resolve .sources "" (key.packagePath ++ fileName)) = .ok bytes)
      (decoded : settings.encoding.decode bytes = .ok text) :
      FileEmission settings key fileName text outlet ⟨key, .source, true, false⟩
        ⟨{ outlet.state with created }, outlet.diagnostics ++ [regeneratedDiagnostic key], log⟩
  /-- The path counts as created, and no file that holds the text is read back: no file changes,
  nothing is listed as written, and one error with the reason is reported. -/
  | collided {path : Path} {reason : Failure} {created : List Path} {log : List LogRecord}
      (resolved : settings.resolve .sources key.package fileName = path)
      (occupies : FileSettings.Occupies settings path outlet.state reason created)
      (other : ∀ bytes, outlet.state.disk.readFile
        (settings.resolve .sources "" (key.packagePath ++ fileName)) = .ok bytes →
        settings.encoding.decode bytes ≠ .ok text) :
      FileEmission settings key fileName text outlet ⟨key, .source, false, true⟩
        ⟨{ outlet.state with created }, outlet.diagnostics ++ [overwriteDiagnostic key reason],
          log⟩

/-- A commit on the sink of files leaves one of the three behind. -/
theorem Emission.onFiles {settings : FileSettings} {key : TargetKey} {fileName text : String}
    {outlet after : Outlet FileState} {artifact : Artifact}
    (emission : Emission settings.sink key fileName text outlet (.ok artifact) after) :
    FileEmission settings key fileName text outlet artifact after := by
  -- The outcome of writing says what became of the file.
  cases emission with
  | fresh wrote =>
    obtain ⟨result, state, log, same, writing⟩ :=
      FileSettings.writeTo_writing settings .sources key.package fileName [text] outlet
    rw [wrote] at same
    cases same
    cases writing with
    | written new absent encoded kept found held =>
      rw [FileSettings.encodeAll_singleton] at encoded
      exact .fresh rfl new (fun incremental => absent incremental rfl) encoded kept found held
  | regenerated wrote occupied held =>
    obtain ⟨created, log, rfl, occupies⟩ := FileSettings.writeTo_occupied wrote occupied
    rw [FileSettings.readFrom_file] at held
    -- Reading changes nothing, so the answer speaks of the disk as it was.
    cases bytes : outlet.state.disk.readFile
        (settings.resolve .sources "" (key.packagePath ++ fileName)) with
    | error fault => simp [bytes] at held
    | ok content =>
      simp only [bytes, Prod.mk.injEq] at held
      obtain ⟨answer, rfl⟩ := held
      cases decoded : settings.encoding.decode content with
      | error fault => simp [decoded] at answer
      | ok existing =>
        simp only [decoded, mapError_ok, Except.ok.injEq] at answer
        exact .regenerated rfl occupies bytes (by rw [decoded, answer])
  | collided wrote occupied held other =>
    obtain ⟨created, log, rfl, occupies⟩ := FileSettings.writeTo_occupied wrote occupied
    rw [FileSettings.readFrom_file] at held
    obtain ⟨answer, rfl⟩ := Prod.mk.inj held
    refine .collided rfl occupies fun bytes read decoded => other ?_
    -- A file that holds the text would have been read back as it.
    rw [← answer]
    simp [read, decoded]

/-- What a commit leaves behind does not depend on the log. -/
theorem FileEmission.relog {settings : FileSettings} {key : TargetKey} {fileName text : String}
    {outlet after : Outlet FileState} {artifact : Artifact}
    (emission : FileEmission settings key fileName text outlet artifact after)
    (log : List LogRecord) :
    FileEmission settings key fileName text outlet artifact { after with log } := by
  -- Each of the three leaves the log open.
  cases emission with
  | fresh resolved new absent encoded kept found held =>
    exact .fresh resolved new absent encoded kept found held
  | regenerated resolved occupies read decoded => exact .regenerated resolved occupies read decoded
  | collided resolved occupies other => exact .collided resolved occupies other

/-- A commit whose artifact says that its text was written has written the file of its key. -/
theorem FileEmission.file {settings : FileSettings} {key : TargetKey} {fileName text : String}
    {outlet after : Outlet FileState} {artifact : Artifact}
    (emission : FileEmission settings key fileName text outlet artifact after)
    (written : artifact.regenerated = false) (placed : artifact.collided = false) :
    ∃ bytes, settings.encoding.encode text = .ok bytes ∧
      after.state.disk.readFile (settings.resolve .sources key.package fileName) = .ok bytes := by
  -- Of the three, only a new file is neither found nor in the way.
  cases emission with
  | fresh resolved new absent encoded kept found held =>
    rw [resolved]
    exact ⟨_, encoded, Disk.readFile_eq_ok.2 ⟨_, found, held⟩⟩
  | regenerated => cases written
  | collided => cases placed

/-- Whatever a commit comes to, it changes the state of the sink by writing its text. -/
theorem Emission.wrote {settings : FileSettings} {key : TargetKey} {fileName text : String}
    {outlet after : Outlet FileState} {result : Except Failure Artifact}
    (emission : Emission settings.sink key fileName text outlet result after) :
    ∃ outcome, FileSettings.Writing settings .sources
      (settings.resolve .sources key.package fileName) [text] outlet.state outcome after.state := by
  obtain ⟨outcome, state, log, same, writing⟩ :=
    FileSettings.writeTo_writing settings .sources key.package fileName [text] outlet
  refine ⟨outcome, ?_⟩
  -- What is read back after a refusal changes nothing.
  cases emission with
  | fresh wrote =>
    rw [wrote] at same
    cases same
    exact writing
  | regenerated wrote occupied held =>
    rw [wrote] at same
    rw [FileSettings.readFrom_file] at held
    cases same
    obtain ⟨_, rfl⟩ := Prod.mk.inj held
    exact writing
  | collided wrote occupied held other =>
    rw [wrote] at same
    rw [FileSettings.readFrom_file] at held
    cases same
    obtain ⟨_, rfl⟩ := Prod.mk.inj held
    exact writing
  | failed wrote unrelated =>
    rw [wrote] at same
    cases same
    exact writing

/-- In an incremental pass, a text whose file is there already is regenerated. -/
theorem emit_again {settings : FileSettings} (utf8 : settings.encoding = .utf8)
    (incremental : settings.incremental = true) {key : TargetKey} {fileName text : String}
    {path : Path} (resolved : settings.resolve .sources key.package fileName = path)
    (back : settings.resolve .sources "" (key.packagePath ++ fileName) = path)
    {outlet : Outlet FileState} (held : outlet.state.disk.readFile path = .ok text.toUTF8) :
    ∃ created log, emit settings.sink key fileName text outlet =
        (.ok ⟨key, .source, true, false⟩,
          ⟨{ outlet.state with created }, outlet.diagnostics ++ [regeneratedDiagnostic key], log⟩) ∧
      (created = outlet.state.created ∨ created = outlet.state.created ++ [path]) := by
  -- The file is there, so its destination counts as created.
  have there : outlet.state.disk.pathExists
      (settings.resolve .sources key.package fileName) = .ok true := by
    obtain ⟨place, found, _⟩ := Disk.readFile_eq_ok.1 held
    simp [resolved, Disk.pathExists, found]
  obtain ⟨failure, refused, wrote, occupied⟩ :=
    FileSettings.writeTo_there utf8 incremental [text] there
  obtain ⟨created, log, same, occupies⟩ := FileSettings.writeTo_occupied wrote occupied
  have read := FileSettings.readFrom_file settings .sources "" (key.packagePath ++ fileName) refused
  rw [back, same] at read
  simp only [held, utf8, decode_utf8.2 rfl, mapError_ok] at read
  -- What is read back is the text, which leaves one of the four outcomes.
  have emission := emit_emission settings.sink key fileName text outlet
  generalize emit settings.sink key fileName text outlet = answer at emission
  obtain ⟨result, after⟩ := answer
  -- Neither a written text nor another failure fits what is known of the sink.
  cases emission with
  | fresh written =>
    rw [wrote] at written
    cases written
  | regenerated again _ existing =>
    rw [wrote] at again
    cases again
    rw [same, read] at existing
    cases existing
    exact ⟨created, _, rfl, resolved ▸ occupies.more⟩
  | collided again _ existing other =>
    rw [wrote] at again
    cases again
    rw [same, read] at existing
    cases existing
    exact absurd rfl other
  | failed again unrelated =>
    rw [wrote] at again
    cases again
    exact absurd occupied unrelated

end SourceTarget

end Stencil
