import SchemaDocs.Proofs.Publication

/-!
# What a run that is refused leaves

All that can refuse a run comes before its first write: the check of the
options, the reading of the descriptors, and the generation, which has a
template compiled and every page laid out before it gives anything. Behind
these stages a run finishes or breaks off. So a run that is refused has the
disk it started with, whichever file is at fault and wherever it stands.
-/

namespace SchemaDocs.Command

/-- Why a run is refused, with the message. -/
inductive Refusal (disk : Disk) (words : List String) : String → Prop
  | options {options : Options} {verbose : Bool} {fault : OptionFault}
      (arguments : Arguments.read words = .ok ⟨options, verbose⟩)
      (checked : options.check disk.isFile disk.isFolder disk.holds = .error fault) :
      Refusal disk words fault.message
  | descriptors {options : Options} {verbose : Bool} {octets : List UInt8}
    {message : String}
      (arguments : Arguments.read words = .ok ⟨options, verbose⟩)
      (checked : options.check disk.isFile disk.isFolder disk.holds = .ok ())
      (read : disk.read options.descriptors = .ok octets)
      (refused : readDescriptors options.descriptors octets = .error (.refused message)) :
      Refusal disk words message
  | generation {options : Options} {verbose : Bool} {octets : List UInt8} {raw : Value}
      {template : Option String} {e : GenerateError}
      (arguments : Arguments.read words = .ok ⟨options, verbose⟩)
      (checked : options.check disk.isFile disk.isFolder disk.holds = .ok ())
      (read : disk.read options.descriptors = .ok octets)
      (described : readDescriptors options.descriptors octets = .ok raw)
      (templated : readTemplate disk options = .ok template)
      (failed : generate raw (.text options.routeBase) template = .error e)
      (own : e.foreignKind? = none) :
      Refusal disk words e.message

theorem exitCode?_eq_one_iff {ending : Ending} :
    ending.exitCode? = some 1 ↔ ∃ message, ending = .refused message := by
  cases ending <;> simp [Ending.exitCode?]

theorem endingOf_eq_refused_iff {e : GenerateError} {message : String} :
    endingOf e = .refused message ↔ e.foreignKind? = none ∧ e.message = message := by
  rw [endingOf]
  split
  · next kind hforeign => simp [hforeign]
  · next hforeign => simp [hforeign]

/-- Nothing that comes with writing refuses a run. -/
theorem publish_not_refused (disk : Disk) (options : Options) (events : List Event)
    (g : Generation) (message : String) :
    (publish disk options events g).ending ≠ .refused message := by
  rw [publish]
  split <;> simp

theorem perform_refused_iff {disk : Disk} {options : Options} {verbose : Bool}
    {message : String} :
    (perform disk options verbose).ending = .refused message ↔
      ∃ octets, disk.read options.descriptors = .ok octets ∧
        (readDescriptors options.descriptors octets = .error (.refused message) ∨
          ∃ raw template e, readDescriptors options.descriptors octets = .ok raw ∧
            readTemplate disk options = .ok template ∧
            generate raw (.text options.routeBase) template = .error e ∧
            e.foreignKind? = none ∧ e.message = message) := by
  rw [perform]
  split
  · next hread => simp [hread]
  · next octets hread =>
  split
  · next hdescriptors => simp [hread, hdescriptors]
  · next hdescriptors => simp [hread, hdescriptors]
  · next raw hdescriptors =>
  split
  · next htemplate => simp [hread, hdescriptors, htemplate]
  · next template htemplate =>
  rw [produce]
  cases hg : generate raw (.text options.routeBase) template with
  | ok g =>
      simp [hread, hdescriptors, htemplate, hg, Except.mapError, publish_not_refused]
  | error e =>
      simp [hread, hdescriptors, htemplate, hg, Except.mapError, endingOf_eq_refused_iff]

theorem run_refused_iff {disk : Disk} {words : List String} {message : String} :
    (run disk words).ending = .refused message ↔ Refusal disk words message := by
  constructor
  · intro h
    rw [run] at h
    split at h
    · next stop _ => cases stop <;> cases h
    · next arguments hwords =>
    split at h
    · next fault hchecked =>
      cases h
      exact .options hwords hchecked
    · next hchecked =>
    obtain ⟨octets, hread,
        hrefused | ⟨raw, template, e, hraw, htemplate, he, hown, rfl⟩⟩ :=
      perform_refused_iff.1 h
    · exact .descriptors hwords hchecked hread hrefused
    · exact .generation hwords hchecked hread hraw htemplate he hown
  · rintro (⟨hwords, hchecked⟩ | ⟨hwords, hchecked, hread, hrefused⟩ |
      ⟨hwords, hchecked, hread, hraw, htemplate, he, hown⟩)
    all_goals
      rw [run, hwords]
      dsimp only
      rw [hchecked]
    · exact perform_refused_iff.2 ⟨_, hread, .inl hrefused⟩
    · exact perform_refused_iff.2 ⟨_, hread,
        .inr ⟨_, _, _, hraw, htemplate, he, hown, rfl⟩⟩

/-- The disk changes and something is printed only when everything is there that
is to be written. -/
theorem run_of_not_generates {disk : Disk} {words : List String}
    (h : ∀ options g, ¬ Generates disk words options g) :
    (run disk words).disk = disk ∧ (run disk words).printed = [] := by
  rw [run]
  split
  · exact ⟨rfl, rfl⟩
  · next arguments hwords =>
  split
  · exact ⟨rfl, rfl⟩
  · next hchecked =>
  rw [perform]
  split
  · exact ⟨rfl, rfl⟩
  · next octets hread =>
  split
  · exact ⟨rfl, rfl⟩
  · exact ⟨rfl, rfl⟩
  · next raw hdescriptors =>
  split
  · exact ⟨rfl, rfl⟩
  · next template htemplate =>
  rw [produce]
  cases hg : generate raw (.text arguments.options.routeBase) template with
  | ok g =>
      exact absurd ⟨⟨arguments.verbose, hwords⟩, hchecked, octets, raw, template, hread,
        hdescriptors, htemplate, hg⟩ (h arguments.options g)
  | error e => exact ⟨rfl, rfl⟩

theorem Refusal.not_generates {disk : Disk} {words : List String} {message : String}
    (h : Refusal disk words message) (options : Options) (g : Generation) :
    ¬ Generates disk words options g := by
  rintro ⟨⟨verbose, hwords⟩, hchecked, octets, raw, template, hread, hraw, htemplate, hg⟩
  rcases h with ⟨hwords', hchecked'⟩ | ⟨hwords', -, hread', hrefused'⟩ |
    ⟨hwords', -, hread', hraw', htemplate', he', -⟩
  all_goals
    cases hwords.symm.trans hwords'
  · cases hchecked.symm.trans hchecked'
  · cases hread.symm.trans hread'
    cases hraw.symm.trans hrefused'
  · cases hread.symm.trans hread'
    cases hraw.symm.trans hraw'
    cases htemplate.symm.trans htemplate'
    cases hg.symm.trans he'

/-- A run that ends with the exit code 1 leaves the disk as it was and has
printed nothing. There is a reason for it, which stands behind everything else
that was reported. -/
theorem run_refused {disk : Disk} {words : List String}
    (h : (run disk words).ending.exitCode? = some 1) :
    (run disk words).disk = disk ∧ (run disk words).output = "" ∧
      (∀ options g, ¬ Generates disk words options g) ∧
      ∃ message, Refusal disk words message ∧
        (run disk words).errors =
          Text.lines ((run disk words).events.map Event.line) ++
            Text.lines ["FATAL: " ++ message] := by
  obtain ⟨message, hending⟩ := exitCode?_eq_one_iff.1 h
  have hrefusal := run_refused_iff.1 hending
  obtain ⟨hdisk, hprinted⟩ := run_of_not_generates hrefusal.not_generates
  refine ⟨hdisk, ?_, hrefusal.not_generates, message, hrefusal, ?_⟩
  · rw [Report.output, hending, hprinted]
    rfl
  · rw [Report.errors, hending]

/-! ## A template that fits every page but the last -/

/-- A template that asks a text for a part, on the page of a file with a short path. -/
def partText : String :=
  "\x7b% if path|length < 2 %\x7d\x7b\x7b title.unit.size \x7d\x7d\x7b% endif %\x7d"

def partDisk : Disk :=
  { diskOf ownText with
    entries := (diskOf ownText).entries ++ [(["t"], .file (Text.Utf8.encode partText))] }

def wordsToParts : List String := wordsToDocs ++ ["--template-path", "t"]

/-- Why a generation is refused, if it is. -/
def refusal? : Except GenerateError Generation → Option String
  | .ok _ => none
  | .error e => if e.foreignKind? = none then some e.message else none

theorem refusal?_eq_some {x : Except GenerateError Generation} {message : String}
    (h : refusal? x = some message) :
    ∃ e, x = .error e ∧ e.foreignKind? = none ∧ e.message = message := by
  cases x with
  | ok g => cases h
  | error e =>
      rw [refusal?, Option.ite_none_right_eq_some] at h
      exact ⟨e, rfl, h.1, Option.some.inj h.2⟩

theorem refusal_parts : Refusal partDisk wordsToParts
    "x: failed to render page: 'str object' has no attribute 'unit'" := by
  have hgenerate : refusal? (generate (pairOf "a/x" "x") (.text "") (some partText)) =
      some "x: failed to render page: 'str object' has no attribute 'unit'" := by
    decide +kernel
  have htemplate : readTemplate partDisk { optionsToDocs with template := some "t" } =
      .ok (some partText) := eq_ok_of_toOption (by decide +kernel)
  obtain ⟨e, he, hown, hmessage⟩ := refusal?_eq_some hgenerate
  rw [← hmessage]
  exact .generation rfl rfl rfl readDescriptors_own htemplate he hown

theorem run_refused_parts :
    (run partDisk wordsToParts).ending.exitCode? = some 1 ∧
      (run partDisk wordsToParts).disk = partDisk ∧
      (run partDisk wordsToParts).output = "" ∧
      ∃ message, Refusal partDisk wordsToParts message ∧
        (run partDisk wordsToParts).errors =
          Text.lines ((run partDisk wordsToParts).events.map Event.line) ++
            Text.lines ["FATAL: " ++ message] := by
  have hexit := exitCode?_eq_one_iff.2 ⟨_, run_refused_iff.2 refusal_parts⟩
  obtain ⟨hdisk, houtput, -, hreported⟩ := run_refused hexit
  exact ⟨hexit, hdisk, houtput, hreported⟩

end SchemaDocs.Command
