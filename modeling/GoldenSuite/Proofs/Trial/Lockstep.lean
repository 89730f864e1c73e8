import GoldenSuite.Proofs.Trial.Assertion
import GoldenSuite.Proofs.Trial.Outcome

/-!
Two runs side by side. The files that they start from may differ in what is left of the generated
files; what a run has settled is the same on both sides from then on. As long as nothing is read
before it is settled, both runs go the same way, and they fail in the same way too.
-/

set_option autoImplicit false

namespace GoldenSuite

namespace Trial

/-- Two stores in which nothing is different but generated files, and of those none that is
settled. -/
structure Agrees (test : TestCase) (settled : List Path) (left right : Store) : Prop where
  alike : Store.ChangesOnly test.generated left right
  settled_eq (path : Path) (among : path ∈ settled) : left.find? path = right.find? path

namespace Agrees

variable {test : TestCase} {settled fewer : List Path} {left right : Store}

theorem mono (agrees : Agrees test settled left right) (sub : fewer ⊆ settled) :
    Agrees test fewer left right where
  alike := agrees.alike
  settled_eq path among := agrees.settled_eq path (sub among)

theorem elsewhere_eq (agrees : Agrees test settled left right) {path : Path}
    (elsewhere : path.components ∉ test.generated.map Path.components) :
    left.find? path = right.find? path :=
  (agrees.alike.find?_eq path elsewhere).symm

theorem read_eq (agrees : Agrees test settled left right) {path : Path} (among : path ∈ settled) :
    FileSystem.read left path = FileSystem.read right path := by
  change Store.read left path = Store.read right path
  rw [Store.read, Store.read, agrees.settled_eq path among]

-- What is written on both sides is settled, be it a generated file or not.
theorem insert (agrees : Agrees test settled left right) (path : Path) (data : ByteArray) :
    Agrees test (path :: settled) (left.insert path data) (right.insert path data) where
  alike :=
    { isSealed_eq := agrees.alike.isSealed_eq
      find?_eq := fun other elsewhere => by
        rw [Store.find?_insert, Store.find?_insert, agrees.alike.find?_eq other elsewhere] }
  settled_eq other among := by
    rw [Store.find?_insert, Store.find?_insert]
    split
    next => rfl
    next apart =>
      rcases List.mem_cons.1 among with rfl | before
      next => exact absurd rfl apart
      next => exact agrees.settled_eq other before

theorem changed {left' right' : Store} (agrees : Agrees test settled left right)
    (leftChange : Store.ChangesOnly test.generated left left')
    (rightChange : Store.ChangesOnly test.generated right right') :
    Agrees test [] left' right' where
  alike := (leftChange.symm.trans agrees.alike).trans rightChange
  settled_eq path among := by simp at among

end Agrees

/-- A call goes by the files that are given: on them its answer depends, and what it leaves at each
path that it does not leave alone. -/
def GoesBy (tools : Tools Store) (given : List Path) (invocation : Invocation) : Prop :=
  ∀ earlier later left right, (∀ path ∈ given, left.find? path = right.find? path) →
    (tools earlier invocation left).1 = (tools later invocation right).1 ∧
      ∀ path,
        (tools earlier invocation left).2.find? path = (tools later invocation right).2.find? path ∨
        (tools earlier invocation left).2.find? path = left.find? path ∧
          (tools later invocation right).2.find? path = right.find? path

def Makes (tools : Tools Store) (given : List Path) (invocation : Invocation) (made : Path) :
    Prop :=
  ∀ earlier later left right, (∀ path ∈ given, left.find? path = right.find? path) →
    ∀ output, (tools earlier invocation left).1 = .ok output → output.exit = .status 0 →
      (tools earlier invocation left).2.find? made = (tools later invocation right).2.find? made

def Confined (tools : Tools Store) (test : TestCase) : Prop :=
  ∀ history invocation files,
    Store.ChangesOnly test.generated files (tools history invocation files).2

-- A failure settles nothing.
def settledBy {α : Type} (then' : α → List Path) : Except Failure α → List Path
  | .ok answer => then' answer
  | .error _ => []

def Together {α : Type} (test : TestCase) (trial : Trial Store α) (then' : α → List Path)
    (one other : World Store) : Prop :=
  (attempt trial one).1 = (attempt trial other).1 ∧
    Agrees test (settledBy then' (attempt trial one).1) (attempt trial one).2.files
      (attempt trial other).2.files

def Lockstep {α : Type} (test : TestCase) (settled : List Path) (trial : Trial Store α)
    (then' : α → List Path) : Prop :=
  ∀ one other : World Store, Agrees test settled one.files other.files →
    Together test trial then' one other

namespace Lockstep

variable {α β : Type} {test : TestCase} {settled : List Path}

theorem pure (answer : α) : Lockstep test settled (Pure.pure answer) fun _ => settled :=
  fun _ _ agrees => ⟨rfl, agrees⟩

theorem throw (failure : Failure) (then' : α → List Path) :
    Lockstep test settled (MonadExcept.throw failure) then' :=
  fun _ _ agrees => ⟨rfl, agrees.mono (List.nil_subset _)⟩

theorem throw_bind (failure : Failure) (next : β → Trial Store α) (then' : α → List Path) :
    Lockstep test settled (MonadExcept.throw failure >>= next) then' :=
  fun _ _ agrees => ⟨rfl, agrees.mono (List.nil_subset _)⟩

-- Only what the first trial answers on this run matters for what comes next.
theorem bind_at {first : Trial Store α} {next : α → Trial Store β} {between : α → List Path}
    {then' : β → List Path} {one other : World Store}
    (agrees : Agrees test settled one.files other.files)
    (firstSteps : Lockstep test settled first between)
    (nextSteps : ∀ answer left, attempt first one = (.ok answer, left) →
      Lockstep test (between answer) (next answer) then') :
    Together test (first >>= next) then' one other := by
  obtain ⟨same, reached⟩ := firstSteps one other agrees
  unfold Together
  rw [attempt_bind, attempt_bind]
  rcases attempted : attempt first one with ⟨failure | answer, left⟩ <;>
    rcases attempted' : attempt first other with ⟨failure' | answer', right⟩
  all_goals rw [attempted, attempted'] at same reached
  next => exact ⟨congrArg Except.error (Except.error.inj same), reached⟩
  next => cases same
  next => cases same
  next =>
    obtain rfl := Except.ok.inj same
    exact nextSteps answer left attempted left right reached

theorem bind {first : Trial Store α} {next : α → Trial Store β} {between : α → List Path}
    {then' : β → List Path} (firstSteps : Lockstep test settled first between)
    (nextSteps : ∀ answer, Lockstep test (between answer) (next answer) then') :
    Lockstep test settled (first >>= next) then' :=
  fun _ _ agrees => bind_at agrees firstSteps fun answer _ _ => nextSteps answer

theorem mono {trial : Trial Store α} {then' less : α → List Path}
    (steps : Lockstep test settled trial then') (sub : ∀ answer, less answer ⊆ then' answer) :
    Lockstep test settled trial less := by
  intro one other agrees
  obtain ⟨same, reached⟩ := steps one other agrees
  refine ⟨same, reached.mono ?_⟩
  cases (attempt trial one).1 with
  | ok answer => exact sub answer
  | error failure => exact List.Subset.refl _

theorem note (level : Verbosity) (text : String) :
    Lockstep test settled (Trial.note level text) fun _ => settled :=
  fun _ _ agrees => ⟨rfl, agrees⟩

theorem note_bind {level : Verbosity} {text : String} {next : Unit → Trial Store α}
    {then' : α → List Path} (steps : ∀ answer, Lockstep test settled (next answer) then') :
    Lockstep test settled (Trial.note level text >>= next) then' :=
  (note level text).bind steps

theorem onFiles {change : Store → Except FileError α × Store} {then' : α → List Path}
    (changed : ∀ left right, Agrees test settled left right →
      (∃ answer left' right', change left = (.ok answer, left') ∧
        change right = (.ok answer, right') ∧ Agrees test (then' answer) left' right') ∨
      ∃ error left' right', change left = (.error error, left') ∧
        change right = (.error error, right') ∧ Agrees test [] left' right') :
    Lockstep test settled (Trial.onFiles change) then' := by
  intro one other agrees
  unfold Together
  rw [attempt_onFiles, attempt_onFiles]
  obtain ⟨answer, left, right, applied, applied', after⟩ |
    ⟨error, left, right, applied, applied', after⟩ := changed one.files other.files agrees
  next =>
    rw [applied, applied']
    exact ⟨rfl, after⟩
  next =>
    rw [applied, applied']
    exact ⟨rfl, after⟩

theorem read {path : Path} (among : path ∈ settled) :
    Lockstep test settled (Trial.read path) fun _ => settled := by
  refine onFiles fun left right agrees => ?_
  have same := agrees.read_eq among
  cases read : FileSystem.read left path with
  | ok text => exact .inl ⟨text, left, right, rfl, by rw [← same, read], agrees⟩
  | error error =>
    exact .inr ⟨error, left, right, rfl, by rw [← same, read], agrees.mono (List.nil_subset _)⟩

theorem write (path : Path) (text : String) :
    Lockstep test settled (Trial.write path text) fun _ => path :: settled := by
  refine onFiles fun left right agrees => ?_
  cases sealed : left.isSealed with
  | false =>
    have sealed' : right.isSealed = false := agrees.alike.isSealed_eq.trans sealed
    exact .inl ⟨(), _, _, Store.write_of_open sealed _ _, Store.write_of_open sealed' _ _,
      agrees.insert path text.toUTF8⟩
  | true =>
    have sealed' : right.isSealed = true := agrees.alike.isSealed_eq.trans sealed
    exact .inr ⟨_, _, _, Store.write_of_sealed sealed _ _, Store.write_of_sealed sealed' _ _,
      agrees.mono (List.nil_subset _)⟩

theorem holds {path : Path} (among : path ∈ settled) :
    Lockstep test settled (Trial.holds path) fun _ => settled := by
  intro one other agrees
  have same : FileSystem.holds one.files path = FileSystem.holds other.files path := by
    change (one.files.find? path).isSome = (other.files.find? path).isSome
    rw [agrees.settled_eq path among]
  exact ⟨congrArg Except.ok same, agrees⟩

-- The log is written where it can be, and the failure is the same.
theorem fail (text : String) {next : Unit → Trial Store α} {then' : α → List Path}
    (fails : ∀ answer, Lockstep test [] (next answer) then') :
    Lockstep test settled (Trial.writeLog test text >>= next) then' := by
  intro one other agrees
  unfold Together
  rw [attempt_bind, attempt_bind, Trial.writeLog, attempt_lift, attempt_lift]
  have logged : Agrees test [] (Action.writeLog test text one).2.files
      (Action.writeLog test text other).2.files :=
    agrees.changed (Action.writeLog_changesOnly test text one)
      (Action.writeLog_changesOnly test text other)
  exact fails () _ _ logged

variable {setup : Setup Store}

theorem call {tools : Tools Store} {invocation : Invocation} {given made : List Path}
    (confined : Confined tools test) (goesBy : GoesBy tools given invocation)
    (makes : ∀ path ∈ made, Makes tools given invocation path)
    (known : ∀ left right, Agrees test settled left right →
      ∀ path ∈ given, left.find? path = right.find? path) :
    Lockstep test settled (ExceptT.lift (Action.call tools invocation)) fun answer =>
      match answer with
      | .ok output => if output.success then made ++ settled else settled
      | .error _ => settled := by
  intro one other agrees
  unfold Together
  rw [attempt_lift, attempt_lift]
  have same := known one.files other.files agrees
  obtain ⟨answers, changes⟩ := goesBy one.calls other.calls one.files other.files same
  refine ⟨congrArg Except.ok answers, ?_⟩
  have after : Agrees test settled (tools one.calls invocation one.files).2
      (tools other.calls invocation other.files).2 :=
    { alike := (agrees.changed (confined _ _ _) (confined _ _ _)).alike
      settled_eq := fun path among => by
        obtain written | ⟨kept, kept'⟩ := changes path
        next => exact written
        next => rw [kept, kept', agrees.settled_eq path among] }
  change Agrees test (match (tools one.calls invocation one.files).1 with
    | .ok output => if output.success then made ++ settled else settled
    | .error _ => settled) _ _
  rcases answered : (tools one.calls invocation one.files).1 with error | output
  next => exact after
  next =>
    dsimp only
    split
    next success =>
      have exited : output.exit = .status 0 := Output.success_iff.1 success
      refine ⟨after.alike, fun path among => ?_⟩
      rcases List.mem_append.1 among with fresh | before
      next => exact makes path fresh _ _ _ _ same output answered exited
      next => exact after.settled_eq path before
    next => exact after

theorem exec {setup : Setup Store} {stage : Stage} {invocation : Invocation}
    {given made : List Path} (confined : Confined setup.tools test)
    (goesBy : GoesBy setup.tools given invocation)
    (makes : ∀ path ∈ made, Makes setup.tools given invocation path)
    (known : ∀ left right, Agrees test settled left right →
      ∀ path ∈ given, left.find? path = right.find? path) :
    Lockstep test settled (Trial.exec setup stage invocation)
      fun output => if output.success then made ++ settled else settled := by
  refine note_bind fun _ => (call confined goesBy makes known).bind fun answer => ?_
  rcases answer with error | output
  next => exact throw _ _
  next =>
    by_cases late : output.timedOut = true
    next =>
      simp only [late, if_true]
      exact fun _ _ agrees => ⟨rfl, agrees.mono (List.nil_subset _)⟩
    next =>
      simp only [late]
      exact note_bind fun _ _ _ agrees => ⟨rfl, agrees⟩

theorem execPlain {setup : Setup Store} {stage : Stage} {invocation : Invocation}
    {given : List Path} (confined : Confined setup.tools test)
    (goesBy : GoesBy setup.tools given invocation)
    (known : ∀ left right, Agrees test settled left right →
      ∀ path ∈ given, left.find? path = right.find? path) :
    Lockstep test settled (Trial.exec setup stage invocation) fun _ => settled := by
  have nothing : ∀ path ∈ ([] : List Path), Makes setup.tools given invocation path := by simp
  exact (exec confined goesBy nothing known).mono fun output => by simp

theorem execChecked {setup : Setup Store} {stage : Stage} {invocation : Invocation}
    {given made : List Path} (confined : Confined setup.tools test)
    (goesBy : GoesBy setup.tools given invocation)
    (makes : ∀ path ∈ made, Makes setup.tools given invocation path)
    (known : ∀ left right, Agrees test settled left right →
      ∀ path ∈ given, left.find? path = right.find? path) :
    Lockstep test settled (Trial.execChecked setup stage invocation) fun _ => made ++ settled := by
  refine (exec confined goesBy makes known).bind fun output => ?_
  split
  next => exact pure output
  next => exact throw _ _

end Lockstep

end Trial

end GoldenSuite
