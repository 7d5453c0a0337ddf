import Stencil.Proofs.Attempt
import Stencil.Proofs.Disk
import Stencil.Proofs.Sink.Streams
import Stencil.Sink.Files

/-! Laws of the sink of files: what opening, writing and reading do to its state. -/

namespace Stencil

namespace FileSettings

open Attempt

/-- What opening a destination for writing can come to. -/
inductive Opening (settings : FileSettings) (place : Place) (path : Path) (state : FileState) :
    Except Failure OpenFile → FileState → Prop where
  /-- The path counts as created. -/
  | repeated (known : path ∈ state.created) :
      Opening settings place path state (.error (.occupied (.thisPass path))) state
  /-- The path counts as created from now on, as it exists. -/
  | existing (fresh : path ∉ state.created) (incremental : settings.incremental = true)
      (source : place = .sources) (there : state.disk.pathExists path = .ok true) :
      Opening settings place path state (.error (.occupied (.earlierBuild path)))
        { state with created := state.created ++ [path] }
  /-- The system refuses the path, at worst when the directories above it are made. -/
  | refused {fault : PathFault} {created : List Path} {later : Disk}
      (fresh : path ∉ state.created)
      (absent : settings.incremental = true → place = .sources →
        state.disk.pathExists path ≠ .ok true)
      (remembered : created = state.created ∨ created = state.created ++ [path])
      (blocked : place = .classes → ∀ made, state.disk.makeDirectories path.parent = (.ok (), made) →
        ∀ opened, made.create path ≠ .ok opened)
      (kept : Disk.Keeps Disk.nowhere state.disk later) :
      Opening settings place path state (.error (.path fault))
        { state with disk := later, created }
  /-- An empty file stands where the path leads. -/
  | opened {location : Location} {later : Disk} (fresh : path ∉ state.created)
      (absent : settings.incremental = true → place = .sources →
        state.disk.pathExists path ≠ .ok true)
      (below : location ≠ []) (found : later.find path = .ok location)
      (empty : later.fileAt? location = some .empty)
      (kept : Disk.Keeps (· = location) state.disk later) :
      Opening settings place path state (.ok ⟨path, location⟩)
        ⟨later, state.created ++ [path], state.written ++ [path]⟩

/-- What is left to do once a path may be created. -/
def openNew (path : Path) : Attempt FileState OpenFile := do
  remember path
  makeParents path
  openFile path

/-- Opening asks first whether the path counts as created, and then whether it exists. -/
theorem openOnce_apply (settings : FileSettings) (place : Place) (package name : String)
    (state : FileState) :
    settings.openOnce place package name state =
      if settings.resolve place package name ∈ state.created then
        (.error (.occupied (.thisPass (settings.resolve place package name))), state)
      else if (settings.incremental && place == .sources) = true then
        match state.disk.pathExists (settings.resolve place package name) with
        | .error fault => (.error (.path fault), state)
        | .ok true => (.error (.occupied (.earlierBuild (settings.resolve place package name))),
            { state with created := state.created ++ [settings.resolve place package name] })
        | .ok false => openNew (settings.resolve place package name) state
      else openNew (settings.resolve place package name) state := by
  -- Each question is asked only if the one before it does not settle the matter.
  unfold openOnce openNew
  by_cases known : settings.resolve place package name ∈ state.created
  · simp [bind_apply, known]
  · by_cases asked : (settings.incremental && place == .sources) = true
    · cases there : state.disk.pathExists (settings.resolve place package name) with
      | error fault => simp [bind_apply, known, asked, onDisk, there]
      | ok exists_ =>
        cases exists_ <;> simp [bind_apply, known, asked, onDisk, there, remember]
    · simp [bind_apply, known, asked]

@[simp] theorem onDisk_apply {α : Type} (result : Except PathFault α) (state : FileState) :
    onDisk result state = (result.mapError Failure.path, state) := rfl

@[simp] theorem remember_apply (path : Path) (state : FileState) :
    remember path state = (.ok (), { state with created := state.created ++ [path] }) := rfl

@[simp] theorem makeParents_apply (path : Path) (state : FileState) :
    makeParents path state = ((state.disk.makeDirectories path.parent).1.mapError Failure.path,
      { state with disk := (state.disk.makeDirectories path.parent).2 }) := rfl

/-- Creating a path makes the directories above it, and then the file. -/
theorem openNew_apply (path : Path) (state : FileState) :
    openNew path state =
      match state.disk.makeDirectories path.parent with
      | (.error fault, made) =>
        (.error (.path fault), { state with disk := made, created := state.created ++ [path] })
      | (.ok (), made) =>
        match made.create path with
        | .error fault =>
          (.error (.path fault), { state with disk := made, created := state.created ++ [path] })
        | .ok (location, later) =>
          (.ok ⟨path, location⟩, ⟨later, state.created ++ [path], state.written ++ [path]⟩) := by
  -- The path is remembered before the disk is asked for anything.
  unfold openNew openFile
  simp only [bind_apply, remember_apply, makeParents_apply, state_apply, onDisk_apply,
    change_apply, pure_apply]
  rcases above : state.disk.makeDirectories path.parent with ⟨fault | _, made⟩
  · rfl
  · cases result : made.create path <;> simp [result]

/-- Opening a destination comes to one of the four. -/
theorem openOnce_opening (settings : FileSettings) (place : Place) (package name : String)
    (state : FileState) :
    Opening settings place (settings.resolve place package name) state
      (settings.openOnce place package name state).1
      (settings.openOnce place package name state).2 := by
  rw [openOnce_apply]
  split
  -- A path that counts as created is refused.
  · rename_i known
    exact .repeated known
  rename_i fresh
  -- Once the path may be created, the disk has the last word.
  have new : (settings.incremental = true → place = .sources →
        state.disk.pathExists (settings.resolve place package name) ≠ .ok true) →
      Opening settings place (settings.resolve place package name) state
        (openNew (settings.resolve place package name) state).1
        (openNew (settings.resolve place package name) state).2 := by
    intro absent
    rw [openNew_apply]
    have kept := Disk.keeps_makeDirectories state.disk (settings.resolve place package name).parent
    rcases above : state.disk.makeDirectories (settings.resolve place package name).parent with
      ⟨fault | _, made⟩
    · rw [above] at kept
      exact .refused fresh absent (Or.inr rfl) (fun _ other same => by simp [above] at same) kept
    · rw [above] at kept
      cases result : made.create (settings.resolve place package name) with
      | error fault =>
        -- The directories are made in one way only, after which the file was refused.
        have blocked : ∀ other,
            state.disk.makeDirectories (settings.resolve place package name).parent =
              (.ok (), other) →
            ∀ opened, other.create (settings.resolve place package name) ≠ .ok opened := by
          intro other same opened
          rw [above] at same
          cases same
          simp [result]
        simpa [result] using Opening.refused fresh absent (Or.inr rfl) (fun _ => blocked) kept
      | ok pair =>
        obtain ⟨below, found, empty, touched⟩ := Disk.create_ok result
        simpa [result] using Opening.opened fresh absent below found empty
          ((kept.weaken fun _ never => never.elim).trans touched)
  -- Only the sources of an incremental pass are asked whether they exist.
  split
  · rename_i asked
    simp only [Bool.and_eq_true, beq_iff_eq] at asked
    split
    -- A path that cannot be looked up is refused with that fault.
    · rename_i fault there
      refine .refused fresh ?_ (Or.inl rfl) ?_ (Disk.Keeps.refl _ _)
      · simp [there]
      · simp [asked.2]
    · rename_i there
      exact .existing fresh asked.1 asked.2 there
    · rename_i there
      refine new ?_
      simp [there]
  -- Without the question, nothing is known of the path, and nothing needs to be.
  · rename_i unasked
    refine new fun incremental source => ?_
    simp [incremental, source] at unasked

/-- The bytes of texts one after the other. -/
def encodeAll (encoding : Encoding) : List String → Except EncodeFault ByteArray
  | [] => .ok .empty
  | text :: rest => do
    let bytes ← encoding.encode text
    let more ← encodeAll encoding rest
    return bytes ++ more

/-- Writing one text appends its bytes, if it has any. -/
theorem write_apply (settings : FileSettings) (file : OpenFile) (text : String)
    (state : FileState) :
    settings.writeText file text state =
      match settings.encoding.encode text with
      | .ok bytes => (.ok (), { state with disk := state.disk.appendAt file.location bytes })
      | .error fault => (.error (.encode fault), state) := by
  -- The text has its bytes before the disk is touched.
  unfold writeText
  cases encoded : settings.encoding.encode text <;> simp [bind_apply]

/-- Texts written to an open file come after its content, up to the first that has no bytes. -/
theorem writeAll_apply (settings : FileSettings) (file : OpenFile) (texts : List String)
    {state : FileState} {content : ByteArray} (below : file.location ≠ [])
    (held : state.disk.fileAt? file.location = some content) :
    ∃ later, settings.sink.writeAll file texts state =
        (((encodeAll settings.encoding texts).mapError Failure.encode).map fun _ => (),
          { state with disk := later }) ∧
      Disk.Keeps (· = file.location) state.disk later ∧
      ∀ bytes, encodeAll settings.encoding texts = .ok bytes →
        later.fileAt? file.location = some (content ++ bytes) := by
  -- Each text is appended to what the texts before it left.
  induction texts generalizing state content with
  | nil =>
    refine ⟨state.disk, rfl, Disk.Keeps.refl _ _, ?_⟩
    intro bytes same
    cases same
    simpa using held
  | cons text rest ih =>
    have split : settings.sink.writeAll file (text :: rest) state =
        (settings.writeText file text >>= fun _ => settings.sink.writeAll file rest) state :=
      congrFun (Sink.writeAll_cons settings.sink file text rest) state
    rw [split, bind_apply, write_apply]
    cases encoded : settings.encoding.encode text with
    | error fault =>
      -- Nothing is written from here on.
      refine ⟨state.disk, ?_, Disk.Keeps.refl _ _, ?_⟩
      · simp [encodeAll, encoded, Bind.bind, Except.bind, Except.map]
      · intro bytes same
        simp [encodeAll, encoded, Bind.bind, Except.bind] at same
    | ok first =>
      -- The rest follows the longer content.
      have here := Disk.fileAt?_appendAt below held first
      obtain ⟨later, result, kept, read⟩ :=
        @ih { state with disk := state.disk.appendAt file.location first } _ here
      refine ⟨later, ?_, (Disk.keeps_appendAt state.disk file.location first).trans kept, ?_⟩
      · simp only [result, encodeAll, encoded, Bind.bind, Except.bind]
        cases encodeAll settings.encoding rest <;> rfl
      · intro bytes same
        simp only [encodeAll, encoded, Bind.bind, Except.bind] at same
        cases more : encodeAll settings.encoding rest with
        | error fault => simp [more] at same
        | ok others =>
          simp only [more, Pure.pure, Except.pure, Except.ok.injEq] at same
          rw [read others more, ← same, ByteArray.append_assoc]

/-- What writing texts to a destination can come to. -/
inductive Writing (settings : FileSettings) (place : Place) (path : Path) (texts : List String)
    (state : FileState) : Except Failure Unit → FileState → Prop where
  /-- The destination was not opened. -/
  | unopened {failure : Failure} {after : FileState}
      (opening : Opening settings place path state (.error failure) after) :
      Writing settings place path texts state (.error failure) after
  /-- A text had no bytes, and the file stays as it is. -/
  | spoiled {fault : EncodeFault} {location : Location} {later : Disk}
      (fresh : path ∉ state.created)
      (unencoded : encodeAll settings.encoding texts = .error fault)
      (kept : Disk.Keeps (· = location) state.disk later)
      (found : later.find path = .ok location)
      (absent : settings.incremental = true → place = .sources →
        state.disk.pathExists path ≠ .ok true) :
      Writing settings place path texts state (.error (.encode fault))
        ⟨later, state.created ++ [path], state.written ++ [path]⟩
  /-- The file holds the bytes of all texts. -/
  | written {bytes : ByteArray} {location : Location} {later : Disk}
      (fresh : path ∉ state.created)
      (absent : settings.incremental = true → place = .sources →
        state.disk.pathExists path ≠ .ok true)
      (encoded : encodeAll settings.encoding texts = .ok bytes)
      (kept : Disk.Keeps (· = location) state.disk later)
      (found : later.find path = .ok location) (held : later.fileAt? location = some bytes) :
      Writing settings place path texts state (.ok ())
        ⟨later, state.created ++ [path], state.written ++ [path]⟩

/-- Closing a file does nothing. -/
theorem during_file {α : Type} (settings : FileSettings) (file : OpenFile)
    (body : Attempt FileState α) (state : FileState) :
    settings.sink.during file body state = body state :=
  Sink.during_apply settings.sink file body state

/-- Writing to a destination comes to one of the three, and touches no diagnostic. -/
theorem writeTo_writing (settings : FileSettings) (place : Place) (package name : String)
    (texts : List String) (outlet : Outlet FileState) :
    ∃ result state log, settings.sink.writeTo place package name texts outlet =
        (result, ⟨state, outlet.diagnostics, log⟩) ∧
      Writing settings place (settings.resolve place package name) texts outlet.state
        result state := by
  -- What opening came to decides whether any text is written.
  have opening := openOnce_opening settings place package name outlet.state
  obtain ⟨log, result⟩ := settings.sink.writeTo_apply place package name texts outlet
  rw [show settings.sink.openWrite = settings.openOnce from rfl] at result
  rw [result]
  generalize settings.openOnce place package name outlet.state = answer at opening
  obtain ⟨failure | file, after⟩ := answer
  · exact ⟨_, _, log, rfl, .unopened opening⟩
  · cases opening with
    | @opened location later fresh absent below found empty kept =>
      -- The texts go to the empty file that was opened.
      obtain ⟨last, all, touched, read⟩ := @writeAll_apply settings
        ⟨settings.resolve place package name, location⟩ texts
        ⟨later, outlet.state.created ++ [settings.resolve place package name],
          outlet.state.written ++ [settings.resolve place package name]⟩ .empty below empty
      refine ⟨_, _, log, rfl, ?_⟩
      rw [during_file, all]
      cases bytes : encodeAll settings.encoding texts with
      | error fault =>
        exact .spoiled fresh bytes (kept.trans touched) (touched.find found) absent
      | ok content =>
        refine .written fresh absent bytes (kept.trans touched) (touched.find found) ?_
        simpa using read content bytes

/-- Writing to a new path touches the place to which the path leads then: it counts as created and is
listed from now on, and for the sources of an incremental pass nothing was found at it. -/
structure Touches (settings : FileSettings) (place : Place) (path : Path) (state after : FileState)
    (location : Location) : Prop where
  new : path ∉ state.created
  absent : settings.incremental = true → place = .sources →
    state.disk.pathExists path ≠ .ok true
  created : after.created = state.created ++ [path]
  written : after.written = state.written ++ [path]
  found : after.disk.find path = .ok location

/-- Whatever writing comes to, it keeps all files but the one that it touches. -/
theorem Writing.keeps {settings : FileSettings} {place : Place} {path : Path} {texts : List String}
    {state after : FileState} {result : Except Failure Unit}
    (writing : Writing settings place path texts state result after) :
    Disk.Keeps (Touches settings place path state after) state.disk after.disk := by
  -- Only a file that was opened is touched, even if its text turns out to have no bytes.
  cases writing with
  | unopened opening =>
    cases opening with
    | repeated | existing => exact .refl _ _
    | refused _ _ _ _ kept => exact kept.weaken fun _ never => never.elim
  | spoiled fresh _ kept found absent =>
    exact kept.weaken fun _ same => ⟨fresh, absent, rfl, rfl, same ▸ found⟩
  | written fresh absent _ kept found _ =>
    exact kept.weaken fun _ same => ⟨fresh, absent, rfl, rfl, same ▸ found⟩

/-- Writing lists its path if the path is new, and it fails if it does not list it. -/
theorem Writing.listed {settings : FileSettings} {place : Place} {path : Path} {texts : List String}
    {state after : FileState} {result : Except Failure Unit}
    (writing : Writing settings place path texts state result after) :
    (path ∉ state.created ∧ after.created = state.created ++ [path] ∧
        after.written = state.written ++ [path]) ∨
      (result ≠ .ok () ∧ after.written = state.written ∧
        (after.created = state.created ∨ after.created = state.created ++ [path])) := by
  -- A path is listed as soon as its file is open.
  cases writing with
  | unopened opening =>
    refine Or.inr ⟨nofun, ?_⟩
    cases opening with
    | repeated => exact ⟨rfl, Or.inl rfl⟩
    | existing => exact ⟨rfl, Or.inr rfl⟩
    | refused _ _ remembered => exact ⟨rfl, remembered⟩
  | spoiled fresh => exact Or.inl ⟨fresh, rfl, rfl⟩
  | written fresh => exact Or.inl ⟨fresh, rfl, rfl⟩

/-- Whatever writing comes to, what counted as created goes on doing so. -/
theorem Writing.created_mono {settings : FileSettings} {place : Place} {path : Path}
    {texts : List String} {state after : FileState} {result : Except Failure Unit}
    (writing : Writing settings place path texts state result after) :
    ∀ known ∈ state.created, known ∈ after.created := by
  -- At most the path itself is added.
  intro known member
  rcases writing.listed with ⟨_, created, _⟩ | ⟨_, _, created | created⟩
  · simp [created, member]
  · rwa [created]
  · simp [created, member]

/-- Reading a destination answers with the text of its file and changes nothing. -/
theorem readFrom_file (settings : FileSettings) (place : Place) (package name : String)
    (outlet : Outlet FileState) :
    settings.sink.readFrom place package name outlet =
      (match outlet.state.disk.readFile (settings.resolve place package name) with
        | .error fault => .error (.path fault)
        | .ok content => (settings.encoding.decode content).mapError Failure.decode, outlet) := by
  -- What cannot be read cannot be opened for reading either.
  have result := settings.sink.readFrom_apply place package name outlet
  rw [result, show settings.sink.openRead = settings.openExisting from rfl]
  unfold openExisting
  simp only [bind_apply, state_apply, onDisk_apply, pure_apply]
  cases bytes : outlet.state.disk.readFile (settings.resolve place package name) with
  | error fault => rfl
  | ok content =>
    -- The file that was opened is the one whose bytes were just read.
    obtain ⟨location, found, held⟩ := Disk.readFile_eq_ok.1 bytes
    simp only [mapError_ok, during_file]
    show ((settings.readText _ _).1, _) = _
    simp only [readText, bind_apply, state_apply, ofExcept_apply, found, Except.toOption,
      Option.getD_some, held]
    rfl

end FileSettings

end Stencil
