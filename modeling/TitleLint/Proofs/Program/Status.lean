import Mathlib
import TitleLint.Program
import TitleLint.Proofs.Harvest.Sources
import TitleLint.Proofs.Policy.Ticket
import TitleLint.Proofs.Report.Validity
import TitleLint.Proofs.Validation.NoNames

namespace TitleLint

open CommandLine File

namespace BoundedWalk

section

variable {t : Tree} {b : BoundedWalk} {deadline : Option Nat} {h : Harvest}

theorem gathers_of_harvest (found : b.harvest t deadline = .ok h) :
    ∃ files, b.walk.discover t = .ok files ∧ Harvest.Gathers t files h := by
  have whole := walk_harvest_of_harvest found
  cases listed : b.walk.discover t with
  | error e =>
    rw [harvest_of_discover_error listed] at whole
    cases whole
  | ok files =>
    rw [harvest_of_discover listed] at whole
    obtain rfl := Except.ok.inj whole
    exact ⟨files, rfl, Harvest.gathers_ofFiles t files⟩

end

end BoundedWalk

namespace Program

/-- The search that a run makes for the names of nodes. -/
def search (t : Tree) (c : Config) (o : Options) : BoundedWalk := walk c (projectRoot t o) o

/-- A run has a configuration, and a format for its output. -/
structure Accepted (t : Tree) (o : Options) (c : Config) (f : OutputFormat) : Prop where
  config : loadConfig t (projectRoot t o) o = .ok c
  format : OutputFormat.ofName? (o.format.getD "text") = some f

/-- The configuration of a run is wrong, or the format of its output is none. -/
inductive Rejected (t : Tree) (o : Options) : Prop
  | config {e : Config.LoadError} : loadConfig t (projectRoot t o) o = .error e → Rejected t o
  | format : OutputFormat.ofName? (o.format.getD "text") = none → Rejected t o

/-- What is printed is one report on the title, and the status says the same as the report. -/
structure IsReport (f : OutputFormat) (coloured : Bool) (title : String) (issues : List Issue)
    (out : Outcome) : Prop where
  output : out.output = Report.render f coloured title issues
  verdict : Report.SaysValid coloured out.output f ↔ issues = []
  valid : out.status = 0 ↔ issues = []
  invalid : out.status = 1 ↔ issues ≠ []

/-- What is printed are all names that the files of a search declare, in byte order. -/
structure IsListing (t : Tree) (w : Walk) (f : OutputFormat) (h : Harvest) (out : Outcome) :
    Prop where
  status : out.status = 0
  output : out.output = h.names.render f
  sorted : h.names.names.Pairwise fun a b => Text.byteLt a b = true
  whole : ∃ files, w.discover t = .ok files ∧ Harvest.Gathers t files h

/-- How a command can end. -/
inductive Ending (t : Tree) (clock : Clock) (coloured : Bool) (o : Options) :
    Command → Outcome → Prop
  | rejected {command : Command} {headline : String} : Rejected t o →
      Ending t clock coloured o command (fail headline [])
  | policyRejected {title : String} {c : Config} {f : OutputFormat} {e : PolicyError} :
      Accepted t o c f → c.policy = .error e →
        Ending t clock coloured o (.check title) (fail "Invalid title policy" [])
  | reported {title : String} {c : Config} {f : OutputFormat} {p : Policy} {issues : List Issue}
      {out : Outcome} : Accepted t o c f → c.policy = .ok p →
        IsReport f coloured title issues out → Ending t clock coloured o (.check title) out
  | searchFailed {c : Config} {f : OutputFormat} {e : BoundedWalk.Failure} :
      Accepted t o c f → (search t c o).harvest t (clock (search t c o)) = .error e →
        Ending t clock coloured o .names (fail e.headline [.scanning (projectRoot t o)])
  | listed {c : Config} {f : OutputFormat} {h : Harvest} {out : Outcome} :
      Accepted t o c f → (search t c o).harvest t (clock (search t c o)) = .ok h →
        IsListing t (search t c o).walk f h out → Ending t clock coloured o .names out

section

variable {t : Tree} {clock : Clock} {coloured : Bool} {o : Options} {c : Config} {b : BoundedWalk}
  {f : OutputFormat} {command : Command} {project : Path} {p : Policy} {title : String}

theorem accepted_or_rejected (t : Tree) (o : Options) :
    (∃ c f, Accepted t o c f) ∨ Rejected t o := by
  cases config : loadConfig t (projectRoot t o) o with
  | error e => exact .inr (.config config)
  | ok c =>
    cases format : OutputFormat.ofName? (o.format.getD "text") with
    | none => exact .inr (.format format)
    | some f => exact .inl ⟨c, f, config, format⟩

theorem Accepted.not_rejected (accepted : Accepted t o c f) : ¬ Rejected t o := by
  intro rejected
  cases rejected with
  | config failed =>
    rw [accepted.config] at failed
    cases failed
  | format unknown =>
    rw [accepted.format] at unknown
    cases unknown

theorem Rejected.runCommand_eq (rejected : Rejected t o) (clock : Clock) (coloured : Bool)
    (command : Command) :
    ∃ headline, runCommand t clock coloured ⟨command, o⟩ = fail headline [] := by
  unfold runCommand
  cases config : loadConfig t (projectRoot t o) o with
  | error e =>
    simp only [config]
    exact ⟨_, rfl⟩
  | ok c =>
    cases rejected with
    | config failed =>
      rw [config] at failed
      cases failed
    | format unknown =>
      simp only [config, unknown]
      exact ⟨_, rfl⟩

theorem Accepted.runCommand_eq (accepted : Accepted t o c f) (clock : Clock) (coloured : Bool)
    (command : Command) :
    runCommand t clock coloured ⟨command, o⟩ =
      match command with
      | .check title => check t clock coloured c (search t c o) f title
      | .names => listNames t clock (projectRoot t o) (search t c o) f := by
  unfold runCommand
  simp only [accepted.config, accepted.format]
  rfl

theorem check_of_policy_error {e : PolicyError} (bad : c.policy = .error e) :
    check t clock coloured c b f title = fail "Invalid title policy" [] := by
  simp only [check, bad]

theorem isReport_check (good : c.policy = .ok p) :
    IsReport f coloured title
      (Validation.validate p (.always (b.loading t (clock b))) title ()).1.issues
      (check t clock coloured c b f title) := by
  simp only [check, good]
  refine ⟨rfl, Report.saysValid_render_iff, ?_, ?_⟩
  · simp [issueStatus]
  · simp [issueStatus]

theorem listNames_of_error {e : BoundedWalk.Failure} (failed : b.harvest t (clock b) = .error e) :
    listNames t clock project b f = fail e.headline [.scanning project] := by
  simp only [listNames, failed]

theorem isListing_listNames {h : Harvest} (found : b.harvest t (clock b) = .ok h) :
    IsListing t b.walk f h (listNames t clock project b f) := by
  simp only [listNames, found]
  exact ⟨rfl, rfl, h.names.sorted, BoundedWalk.gathers_of_harvest found⟩

theorem IsReport.status_ne {issues : List Issue} {out : Outcome}
    (report : IsReport f coloured title issues out) : out.status ≠ 2 := by
  intro status
  by_cases none : issues = []
  · rw [report.valid.mpr none] at status
    cases status
  · rw [report.invalid.mpr none] at status
    cases status

/-- There are no other ways for a command to end. -/
theorem ending_runCommand (t : Tree) (clock : Clock) (coloured : Bool) (o : Options)
    (command : Command) :
    Ending t clock coloured o command (runCommand t clock coloured ⟨command, o⟩) := by
  rcases accepted_or_rejected t o with ⟨c, f, accepted⟩ | rejected
  · rw [accepted.runCommand_eq]
    cases command with
    | check title =>
      cases made : c.policy with
      | error e =>
        simp only [check_of_policy_error made]
        exact .policyRejected accepted made
      | ok p => exact .reported accepted made (isReport_check made)
    | names =>
      cases found : (search t c o).harvest t (clock (search t c o)) with
      | error e =>
        simp only [listNames_of_error found]
        exact .searchFailed accepted found
      | ok h => exact .listed accepted found (isListing_listNames found)
  · obtain ⟨headline, ran⟩ := rejected.runCommand_eq clock coloured command
    rw [ran]
    exact .rejected rejected

theorem Ending.output_eq {out : Outcome} (ending : Ending t clock coloured o command out)
    (status : out.status = 2) : out.output = "" := by
  cases ending with
  | rejected _ => rfl
  | policyRejected _ _ => rfl
  | reported _ _ report => exact absurd status report.status_ne
  | searchFailed _ _ => rfl
  | listed _ _ listing =>
    rw [listing.status] at status
    cases status

theorem Ending.status_check_iff {out : Outcome}
    (ending : Ending t clock coloured o (.check title) out) :
    out.status = 2 ↔ Rejected t o ∨
      ∃ c e, loadConfig t (projectRoot t o) o = .ok c ∧ c.policy = .error e := by
  cases ending with
  | rejected rejected => exact iff_of_true rfl (.inl rejected)
  | policyRejected accepted bad => exact iff_of_true rfl (.inr ⟨_, _, accepted.config, bad⟩)
  | reported accepted good report =>
    refine iff_of_false report.status_ne ?_
    rintro (rejected | ⟨d, e, config, bad⟩)
    · exact accepted.not_rejected rejected
    · obtain rfl := Except.ok.inj (accepted.config.symm.trans config)
      rw [good] at bad
      cases bad

theorem Ending.status_names_iff {out : Outcome}
    (ending : Ending t clock coloured o .names out) :
    out.status = 2 ↔ Rejected t o ∨ ∃ c e, loadConfig t (projectRoot t o) o = .ok c ∧
      (search t c o).harvest t (clock (search t c o)) = .error e := by
  cases ending with
  | rejected rejected => exact iff_of_true rfl (.inl rejected)
  | searchFailed accepted failed => exact iff_of_true rfl (.inr ⟨_, _, accepted.config, failed⟩)
  | listed accepted found listing =>
    refine iff_of_false (by simp [listing.status]) ?_
    rintro (rejected | ⟨d, e, config, failed⟩)
    · exact accepted.not_rejected rejected
    · obtain rfl := Except.ok.inj (accepted.config.symm.trans config)
      rw [found] at failed
      cases failed

theorem runTimed_eq {args : List String} {i : Invocation} (parsed : CommandLine.parse args = .ok i)
    (clock : Clock) (coloured : Bool) (t : Tree) :
    runTimed clock coloured t args = runCommand t clock coloured i := by
  simp only [runTimed, parsed]

theorem output_of_status {args : List String}
    (status : (runTimed clock coloured t args).status = 2) :
    (runTimed clock coloured t args).output = "" := by
  cases parsed : CommandLine.parse args with
  | ok i =>
    rw [runTimed_eq parsed] at status ⊢
    exact (ending_runCommand t clock coloured i.options i.command).output_eq status
  | error stop =>
    unfold runTimed at status ⊢
    rw [parsed] at status ⊢
    cases stop with
    | misused e => rfl
    | helpWanted topic => cases status
    | versionWanted => cases status

/-- A title gets its report as soon as there are a configuration, a format and a policy. -/
theorem isReport_runTimed {args : List String}
    (parsed : CommandLine.parse args = .ok ⟨.check title, o⟩) (accepted : Accepted t o c f)
    (good : c.policy = .ok p) :
    IsReport f coloured title
      (Validation.validate p (.always ((search t c o).loading t (clock (search t c o))))
        title ()).1.issues
      (runTimed clock coloured t args) := by
  rw [runTimed_eq parsed, accepted.runCommand_eq]
  exact isReport_check good

end

/-- Whatever the arguments, the files, the time for a search and the colours, a run that ends in
status 2 prints nothing. A title gets a report unless the configuration, the format or the policy is
wrong, however the search for names goes. The names are listed unless the configuration or the format
is wrong or the search fails; the policy does not matter. -/
theorem runTimed_status (clock : Clock) (coloured : Bool) (t : Tree) (args : List String) :
    let out := runTimed clock coloured t args
    (out.status = 2 → out.output = "") ∧
    (∀ title o, CommandLine.parse args = .ok ⟨.check title, o⟩ →
      (out.status = 2 ↔ Rejected t o ∨
        ∃ c e, loadConfig t (projectRoot t o) o = .ok c ∧ c.policy = .error e) ∧
      ∀ c f p, Accepted t o c f → c.policy = .ok p →
        let loading := (search t c o).loading t (clock (search t c o))
        IsReport f coloured title (Validation.validate p (.always loading) title ()).1.issues out) ∧
    ∀ o, CommandLine.parse args = .ok ⟨.names, o⟩ →
      (out.status = 2 ↔ Rejected t o ∨ ∃ c e, loadConfig t (projectRoot t o) o = .ok c ∧
        (search t c o).harvest t (clock (search t c o)) = .error e) ∧
      ∀ c f h, Accepted t o c f →
        (search t c o).harvest t (clock (search t c o)) = .ok h →
          IsListing t (search t c o).walk f h out := by
  intro out
  refine ⟨output_of_status, fun title o parsed => ⟨?_, ?_⟩, fun o parsed => ?_⟩
  · simp only [out, runTimed_eq parsed]
    exact (ending_runCommand t clock coloured o _).status_check_iff
  · intro c f p accepted good
    exact isReport_runTimed parsed accepted good
  · simp only [out, runTimed_eq parsed]
    refine ⟨(ending_runCommand t clock coloured o _).status_names_iff, ?_⟩
    intro c f h accepted found
    rw [accepted.runCommand_eq]
    exact isListing_listNames found

/-- A directory with nothing in it. -/
def bareTree : Tree := { root := .directory [] }

theorem node_bareTree {p : Path} {name : String} {rest : List String}
    (relative : p.isAbsolute = false) (path : p.names = name :: rest)
    (proper : name ∉ ["", ".", ".."]) : ∃ e, bareTree.node p = .error e :=
  Walk.node_of_absent relative path proper rfl

theorem accepted_bareTree : Accepted bareTree { root := some "sub" } {} .text := by
  obtain ⟨e, absent⟩ := @node_bareTree "sub/.config/titlecheck/config.yaml" "sub"
    [".config", "titlecheck", "config.yaml"] (by decide +kernel) (by decide +kernel) (by decide)
  have path : Path.join "sub" Config.usualPath = "sub/.config/titlecheck/config.yaml" := by
    decide +kernel
  have missing : bareTree.contains "sub/.config/titlecheck/config.yaml" = false := by
    rw [Tree.contains, absent]
    rfl
  refine ⟨?_, by cbv⟩
  simp only [loadConfig, projectRoot, path, Config.load, missing]
  rfl

theorem harvest_bareTree :
    ∃ e, (search bareTree {} { root := some "sub" }).walk.harvest bareTree = .error e := by
  obtain ⟨e, absent⟩ := @node_bareTree "sub/packages/nodes-base/nodes" "sub"
    ["packages", "nodes-base", "nodes"] (by decide +kernel) (by decide +kernel) (by decide)
  have root : (search bareTree {} { root := some "sub" }).walk.root =
      "sub/packages/nodes-base/nodes" := by decide +kernel
  have missing : bareTree.isDirectory "sub/packages/nodes-base/nodes" = false := by
    rw [Tree.isDirectory, absent]
    rfl
  refine ⟨.rootNotFound "sub/packages/nodes-base/nodes", ?_⟩
  simp only [Walk.harvest, Walk.discover, root, missing]
  rfl

theorem policy_of_nothing_given : Config.policy {} = .ok .default := by
  simp only [Config.policy, Policy.make, Option.getD_none, Policy.read?_defaultTicketText]
  rfl

theorem parse_unnamed : CommandLine.parse ["--root", "sub", "feat(Oura Node): add x"] =
    .ok ⟨.check "feat(Oura Node): add x", { root := some "sub" }⟩ := by cbv

theorem issues_unnamed (deadline : Option Nat) :
    (Validation.validate .default
      (.always ((search bareTree {} { root := some "sub" }).loading bareTree deadline))
      "feat(Oura Node): add x" ()).1.issues = [] := by
  obtain ⟨e, missing⟩ := harvest_bareTree
  have fails : ((search bareTree {} { root := some "sub" }).loading bareTree deadline).Fails :=
    BoundedWalk.loading_fails_of_error missing
  rw [@Validation.issues_of_fails _ _ _ _ () .empty fails]
  decide +kernel

/-- Nodes cannot be found where there are none: a title that names one is valid then, but there is
nothing to list. -/
theorem run_bareTree :
    let title := "feat(Oura Node): add x"
    let checked := run bareTree ["--root", "sub", title]
    let listed := run bareTree ["--root", "sub", "names"]
    checked.status = 0 ∧ checked.output = "OK feat(Oura Node): add x\n" ∧
      listed.status = 2 ∧ listed.output = "" := by
  intro title checked listed
  have named : CommandLine.parse ["--root", "sub", "names"] =
      .ok ⟨.names, { root := some "sub" }⟩ := by cbv
  obtain ⟨_, checks, _⟩ := runTimed_status deadline false bareTree ["--root", "sub", title]
  obtain ⟨silent, _, lists⟩ := runTimed_status deadline false bareTree ["--root", "sub", "names"]
  have report :=
    (checks _ _ parse_unnamed).2 {} .text .default accepted_bareTree policy_of_nothing_given
  simp only [issues_unnamed] at report
  obtain ⟨e, missing⟩ := harvest_bareTree
  obtain ⟨e', failed⟩ := BoundedWalk.exists_error_of_walk_error (deadline _) missing
  have status := (lists _ named).1.mpr (.inr ⟨{}, e', accepted_bareTree.config, failed⟩)
  exact ⟨report.valid.mpr rfl, report.output.trans (by decide +kernel), status, silent status⟩

/-- Where the output shows colours, the report on a valid title begins with a control sequence. -/
theorem not_forall_report_begins_ok :
    ¬ ∀ (coloured : Bool) (t : Tree) (args : List String) (title : String) (o : Options)
      (c : Config) (p : Policy), CommandLine.parse args = .ok ⟨.check title, o⟩ →
        Accepted t o c .text → c.policy = .ok p →
          ((run t args coloured).status = 0 ↔
            "OK ".toList <+: (run t args coloured).output.toList) := by
  intro all
  have begins := all true bareTree _ _ _ _ _ parse_unnamed accepted_bareTree policy_of_nothing_given
  have report : IsReport .text true "feat(Oura Node): add x" []
      (run bareTree ["--root", "sub", "feat(Oura Node): add x"] true) := by
    rw [← issues_unnamed (deadline (search bareTree {} { root := some "sub" }))]
    exact isReport_runTimed parse_unnamed accepted_bareTree policy_of_nothing_given
  have painted := report.output.trans
    (show _ = "\x1b[32;1mOK\x1b[0m feat(Oura Node): add x\n" by decide +kernel)
  have plain := begins.mp (report.valid.mpr rfl)
  simp [painted] at plain

end Program

end TitleLint
