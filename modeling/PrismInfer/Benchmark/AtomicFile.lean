import PrismInfer.Lib.Staging
import PrismInfer.Benchmark.Sha256Standard

/-!
# Publishing a file without replacing one

`write_new_or_same_text_file_atomically` (atomic_file.cpp) as the program of a
writer: every call into the file system is one step, with the answer it gets, and
a call may crash before any step. The bytes go to a file `payload` in a fresh
private directory, the validator looks at that file, and a hard link gives it the
public name.

A published file has its public name, the private names that calls have not removed and
the names that were there from the start.

A private directory is only seen through the `payload` in it: its name is fresh, so
no other call looks into it.
-/

namespace PrismInfer.Benchmark

open PrismInfer.Lib

/-! ## Files -/

/-- What the status of a path can say about its entry. -/
inductive FileKind
  | regular
  | symlink
  | danglingSymlink
  | other
  deriving DecidableEq

/-- An entry of the file system: its kind, the bytes that reading it gives, and how many
hard links it has besides its public name and the private names of the calls. -/
structure File where
  bytes : List Byte
  kind : FileKind := .regular
  otherLinks : ℕ := 0
  deriving DecidableEq

/-- `std::filesystem::hard_link_count`. -/
def hardLinkCount {ν ℓ : Type*} (w : World ν File ℓ) (path : ν) : ℕ :=
  match w.store.published path with
  | none => 0
  | some k => 1 + ((w.store.objects[k]?).elim 0 File.otherLinks) + w.links k

/-! ## One call -/

/-- The arguments of a call. Of the validator only its presence matters here: its
verdicts are answers of the environment. -/
structure WriteArguments (ν : Type*) where
  path : ν
  hasFilename : Bool := true
  contents : List Byte
  maximumBytes : ℕ
  validator : Bool
  deriving DecidableEq

/-- What a call returns, with its error text. -/
inductive WriteResult
  | success
  | failure (error : String)
  deriving DecidableEq

/-- The next step of a call. -/
inductive WritePc
  | entry
  | targetStatus
  | existingStatus
  | existingLinkCount
  | existingSize
  | existingOpen
  | existingRead
  | existingValidator
  | parentStatus
  | temporaryDirectory (attempt : ℕ)
  | temporaryOpen
  | temporaryWrite
  | temporaryValidator
  | createHardLink
  | cleanupPayload (result : WriteResult)
  | cleanupDirectory (result : WriteResult)
  | returned (result : WriteResult)
  | crashed
  deriving DecidableEq

/-- What a step meets: an operation succeeds or fails, a directory name is taken, a part
of the bytes reaches the file, the validator rejects, the nonce generator throws, or the
process crashes before the step. -/
inductive Answer
  | succeeds
  | fails
  | collides
  | writes (count : ℕ)
  | rejects (error : String)
  | throws
  | crashes
  deriving DecidableEq

/-- A call: its arguments, where it stands, and the bytes of the file that its validator
has accepted. -/
structure Call (ν : Type*) where
  arguments : WriteArguments ν
  pc : WritePc := .entry
  accepted : Option (List Byte) := none

/-- `kMaximumCreateAttempts`. -/
def maximumCreateAttempts : ℕ := 32

namespace Call

variable {ν ℓ : Type*}

variable (call : Call ν)

/-- A step that only moves on. -/
def goto (pc : WritePc) : Option (Call ν × Effect ν File) :=
  some ({ call with pc := pc }, .idle)

/-- A return of `false`. -/
def fail (error : String) : Option (Call ν × Effect ν File) :=
  call.goto (.returned (.failure error))

/-- A return of `false` after the private directory is removed. -/
def cleanup (error : String) : Option (Call ν × Effect ν File) :=
  call.goto (.cleanupPayload (.failure error))

/-- A test of the file system: an answer that does not pass and a failed operation give
the same error. -/
def check (answer : Answer) (passes : Bool) (pc : WritePc) (error : String) :
    Option (Call ν × Effect ν File) :=
  match answer with
  | .succeeds => if passes then call.goto pc else call.fail error
  | .fails => call.fail error
  | _ => none

/-- The validator runs on a file with these bytes. -/
def validate (answer : Answer) (bytes : Option (List Byte)) (pc : WritePc)
    (reject : String → WritePc) : Option (Call ν × Effect ν File) :=
  match answer with
  | .succeeds => some ({ call with pc := pc, accepted := bytes }, .idle)
  | .rejects error => call.goto (reject error)
  | _ => none

/-- What happens at each point of a call that does not crash there
(atomic_file.cpp:17–49, 102–189). -/
def act (w : World ν File ℓ) (staged : Staged) (call : Call ν) (answer : Answer) :
    Option (Call ν × Effect ν File) :=
  let arguments := call.arguments
  let target := w.store.content arguments.path
  match call.pc with
  | .entry =>
    match answer with
    | .succeeds =>
      if arguments.maximumBytes < arguments.contents.length ∨ arguments.hasFilename = false then
        call.fail "atomic_file_input_rejected"
      else call.goto .targetStatus
    | _ => none
  | .targetStatus =>
    match answer with
    | .succeeds =>
      -- `exists` follows links
      if target.any (·.kind ≠ .danglingSymlink) then call.goto .existingStatus
      else call.goto .parentStatus
    | .fails => call.fail "atomic_file_target_status_failed"
    | _ => none
  -- `read_exact_bounded`
  | .existingStatus =>
    call.check answer (target.any (·.kind = .regular)) .existingLinkCount
      "atomic_file_existing_not_regular"
  | .existingLinkCount =>
    call.check answer (hardLinkCount w arguments.path = 1) .existingSize
      "atomic_file_existing_link_count_rejected"
  | .existingSize =>
    call.check answer (target.any (·.bytes.length ≤ arguments.maximumBytes)) .existingOpen
      "atomic_file_existing_size_rejected"
  | .existingOpen => call.check answer true .existingRead "atomic_file_existing_open_failed"
  | .existingRead =>
    match answer with
    | .succeeds =>
      if target.any (·.bytes = arguments.contents) then
        call.goto (if arguments.validator then .existingValidator else .returned .success)
      else call.fail "atomic_file_existing_content_mismatch"
    | .fails => call.fail "atomic_file_existing_read_failed"
    | _ => none
  | .existingValidator =>
    call.validate answer (target.map File.bytes) (.returned .success)
      fun error => .returned (.failure error)
  -- the private directory
  | .parentStatus => call.check answer true (.temporaryDirectory 0) "atomic_file_parent_rejected"
  | .temporaryDirectory attempt =>
    match answer with
    | .succeeds => call.goto .temporaryOpen
    | .collides =>
      if attempt + 1 < maximumCreateAttempts then call.goto (.temporaryDirectory (attempt + 1))
      else call.fail "atomic_file_temporary_collision_limit"
    | .fails => call.fail "atomic_file_temporary_directory_failed"
    | .throws => call.fail "atomic_file_nonce_generation_failed"
    | _ => none
  | .temporaryOpen =>
    match answer with
    | .succeeds => some ({ call with pc := .temporaryWrite }, .create { bytes := [] })
    | .fails => call.cleanup "atomic_file_temporary_open_failed"
    | _ => none
  | .temporaryWrite =>
    match answer with
    | .writes count => some (call, .write { bytes := arguments.contents.take count })
    | .succeeds =>
      some ({ call with
        pc := if arguments.validator then .temporaryValidator else .createHardLink },
        .write { bytes := arguments.contents })
    | .fails => call.cleanup "atomic_file_temporary_write_failed"
    | _ => none
  | .temporaryValidator =>
    call.validate answer ((staged.content w.store).map File.bytes) .createHardLink
      fun error => .cleanupPayload (.failure error)
  | .createHardLink =>
    match answer with
    | .succeeds =>
      some ({ call with pc := .cleanupPayload .success }, .publish arguments.path true)
    | .fails => call.cleanup "atomic_file_publish_failed"
    | _ => none
  -- `remove_all`: what it could not remove stays, and its error is dropped
  | .cleanupPayload result =>
    match answer with
    | .succeeds => some ({ call with pc := .cleanupDirectory result }, .discard)
    | .fails => some ({ call with pc := .cleanupDirectory result }, .abandon)
    | _ => none
  | .cleanupDirectory result =>
    match answer with
    | .succeeds => call.goto (.returned result)
    | .fails => call.goto (.returned result)
    | _ => none
  | .returned _ => none
  | .crashed => none

/-- The call has come to its end. -/
def ended : Bool :=
  match call.pc with
  | .returned _ => true
  | .crashed => true
  | _ => false

/-- One step of a call, which may crash before it. -/
def next (w : World ν File ℓ) (staged : Staged) (call : Call ν) (answer : Answer) :
    Option (Call ν × Effect ν File) :=
  if answer = .crashes then
    if call.ended then none else call.goto .crashed
  else call.act w staged answer

end Call

/-- Calls of `write_new_or_same_text_file_atomically` on any paths, in any number. -/
def writeNewOrSame (ν : Type*) : Protocol ν File (Call ν) (WriteArguments ν) Answer where
  start arguments := { arguments := arguments }
  next w writer answer := writer.state.next w writer.staged answer

end PrismInfer.Benchmark
