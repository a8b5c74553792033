import TitleLint.Walk.Bounded

namespace TitleLint.BoundedWalk

open File

/-- How many steps a search takes: to find the files, to read each of them and to hand over the
harvest. -/
def steps (t : Tree) (w : Walk) : Nat :=
  match w.discover t with
  | .ok files => files.length + 2
  | .error _ => 1

/-- How far a search has come after a number of steps, and what it has gathered. -/
inductive Reached (t : Tree) (w : Walk) : Nat → Progress → Prop
  | notStarted : Reached t w 0 .notStarted
  | reading {done left : List (SourceKind × Path)} : w.discover t = .ok (done ++ left) →
      Reached t w (done.length + 1) (.reading left (Harvest.ofFiles t done))
  | finished {n : Nat} : steps t w ≤ n → Reached t w n (.finished (w.harvest t))

section

variable {t : Tree} {w : Walk} {n : Nat}

theorem harvest_of_discover {files : List (SourceKind × Path)} (h : w.discover t = .ok files) :
    w.harvest t = .ok (Harvest.ofFiles t files) := by
  rw [Walk.harvest, h]
  rfl

theorem harvest_of_discover_error {e : Walk.DiscoveryError} (h : w.discover t = .error e) :
    w.harvest t = .error e := by
  rw [Walk.harvest, h]
  rfl

theorem Reached.advance {progress : Progress} (h : Reached t w n progress) :
    Reached t w (n + 1) (advance t w progress) := by
  cases h with
  | notStarted =>
    cases found : w.discover t with
    | error e =>
      have only : steps t w ≤ 1 := by simp [steps, found]
      simp only [BoundedWalk.advance, found]
      rw [← harvest_of_discover_error found]
      exact .finished only
    | ok files =>
      simp only [BoundedWalk.advance, found]
      exact @Reached.reading t w [] files found
  | @reading done left found =>
    cases left with
    -- Every file was read, so what is gathered is what the search finds.
    | nil =>
      rw [List.append_nil] at found
      have last : steps t w ≤ done.length + 1 + 1 := by simp [steps, found]
      simp only [BoundedWalk.advance]
      rw [← harvest_of_discover found]
      exact .finished last
    -- The next file moves over to those that were read.
    | cons f left =>
      have next : w.discover t = .ok ((done ++ [f]) ++ left) := by
        rw [found, List.append_assoc, List.singleton_append]
      have reached := Reached.reading next
      rwa [Harvest.ofFiles_concat, List.length_append] at reached
  | finished done => exact .finished (by omega)

theorem reached_progress (t : Tree) (w : Walk) (n : Nat) : Reached t w n (progress t w n) := by
  induction n with
  | zero => exact .notStarted
  | succ n ih => exact ih.advance

/-- A search is finished after as many steps as it takes, and not before. -/
theorem Reached.finished_iff {progress : Progress} (h : Reached t w n progress) :
    (∃ outcome, progress = .finished outcome) ↔ steps t w ≤ n := by
  cases h with
  | notStarted =>
    have some_step : 0 < steps t w := by unfold steps; split <;> omega
    simp only [reduceCtorEq, exists_false, false_iff]
    omega
  | @reading done left found =>
    have more : done.length + 1 < steps t w := by
      simp only [steps, found, List.length_append]
      omega
    simp only [reduceCtorEq, exists_false, false_iff]
    omega
  | finished done => exact ⟨fun _ => done, fun _ => ⟨_, rfl⟩⟩

end

/-- Whether the deadline passes before the search is done. -/
def isLate (t : Tree) (b : BoundedWalk) (deadline : Option Nat) : Bool :=
  deadline.any fun n => n < steps t b.walk

section

variable {t : Tree} {b : BoundedWalk}

theorem harvest_of_late {n : Nat} (late : n < steps t b.walk) :
    b.harvest t (some n) = .error (.timedOut b.timeout b.walk.root) := by
  have reached := reached_progress t b.walk n
  have unfinished := mt reached.finished_iff.mp (Nat.not_le.mpr late)
  cases far : progress t b.walk n with
  | notStarted => simp only [harvest, far]
  | reading left gathered => simp only [harvest, far]
  | finished outcome => exact absurd ⟨outcome, far⟩ unfinished

theorem harvest_in_time {n : Nat} (early : steps t b.walk ≤ n) :
    b.harvest t (some n) = b.harvest t none := by
  have reached := reached_progress t b.walk n
  obtain ⟨outcome, far⟩ := reached.finished_iff.mpr early
  rw [far] at reached
  cases reached with
  | finished _ => simp only [harvest, far]

/-- What a bounded search yields is what the search yields, or nothing. -/
theorem loading_eq (t : Tree) (b : BoundedWalk) (deadline : Option Nat) :
    b.loading t deadline =
      if b.isLate t deadline then
        { names := .error ("Timed out after " ++ b.timeout.text ++
            " collecting node display names from " ++ b.walk.root) }
      else .ofHarvest Walk.DiscoveryError.message (b.walk.harvest t) := by
  have unbounded : b.loading t none =
      .ofHarvest Walk.DiscoveryError.message (b.walk.harvest t) := by
    unfold loading harvest
    cases b.walk.harvest t <;> rfl
  cases deadline with
  | none => exact unbounded
  | some n =>
    by_cases late : n < steps t b.walk
    · rw [loading, harvest_of_late late, if_pos (by simpa [isLate] using late)]
      rfl
    · rw [loading, harvest_in_time (Nat.not_lt.mp late), if_neg (by simpa [isLate] using late)]
      exact unbounded

/-- A bounded search has no harvest but the whole one. -/
theorem walk_harvest_of_harvest {deadline : Option Nat} {h : Harvest}
    (found : b.harvest t deadline = .ok h) :
    b.walk.harvest t = .ok h := by
  have unbounded : b.harvest t none = .ok h := by
    cases deadline with
    | none => exact found
    | some n =>
      by_cases late : n < steps t b.walk
      · rw [harvest_of_late late] at found
        cases found
      · rwa [harvest_in_time (Nat.not_lt.mp late)] at found
  unfold harvest at unbounded
  cases outcome : b.walk.harvest t with
  | error e => simp [outcome] at unbounded
  | ok whole => simpa [outcome] using unbounded

theorem exists_error_of_walk_error {e : Walk.DiscoveryError} (deadline : Option Nat)
    (missing : b.walk.harvest t = .error e) : ∃ e', b.harvest t deadline = .error e' := by
  cases found : b.harvest t deadline with
  | error e' => exact ⟨e', rfl⟩
  | ok h =>
    rw [walk_harvest_of_harvest found] at missing
    cases missing

end

end TitleLint.BoundedWalk
