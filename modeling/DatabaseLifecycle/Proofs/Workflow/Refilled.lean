import DatabaseLifecycle.Proofs.Resource.Secret
import DatabaseLifecycle.Proofs.Workflow.Prepared

/-!
Bundles that are filled in once more. What an earlier preparation filled in, in part or in whole, is
filled in anew, so nothing that a later one does can depend on it.
-/

namespace DatabaseLifecycle

namespace DatabaseSpec

variable (spec : DatabaseSpec) (clusterId other : String)

/-- A database stays a clone or an instance on another cluster. -/
@[simp] theorem isClone_withClusterId : (spec.withClusterId clusterId).isClone = spec.isClone := by
  obtain ⟨serverRef, mode⟩ := spec
  cases mode <;> rfl

/-- The cluster that is named last counts. -/
theorem withClusterId_withClusterId :
    (spec.withClusterId clusterId).withClusterId other = spec.withClusterId other := by
  obtain ⟨serverRef, mode⟩ := spec
  cases mode <;> rfl

end DatabaseSpec

namespace Bundle

variable {earlier later environment : Environment} {bundle next other : Bundle}

/-- Whether the database of a bundle is a clone, if there is one. -/
def isClone? (bundle : Bundle) : Option Bool := bundle.database.map (·.spec.isClone)

/-- A secret that has been placed and given texts is placed and given texts under the same keys anew. -/
theorem filledSecret_again {first second : List (String × String)}
    (keys : first.map Prod.fst = second.map Prod.fst) (target : String) (secret : Secret) :
    let placed (secret : Secret) : Secret :=
      { secret with metadata := secret.metadata.withNamespace target }
    (placed ((placed secret).inject first)).inject second = (placed secret).inject second := by
  intro placed
  have texts := (placed secret).inject_inject keys
  -- The namespace that was filled in first is the one that is filled in now.
  have home := secret.metadata.withNamespace_withNamespace target
  rw [← texts]
  simp only [Secret.inject, placed, home]

/-- A database secret is filled in anew. -/
theorem filledDatabaseSecret_again (earlier later : Environment) (target : String) (secret : Secret) :
    filledDatabaseSecret later target (filledDatabaseSecret earlier target secret)
      = filledDatabaseSecret later target secret :=
  filledSecret_again (by rfl) target secret

/-- A control plane secret is filled in anew. -/
theorem filledServerSecret_again (earlier later : Environment) (target : String) (secret : Secret) :
    filledServerSecret later target (filledServerSecret earlier target secret)
      = filledServerSecret later target secret :=
  filledSecret_again (by rfl) target secret

/-- A server registration is filled in anew. -/
theorem filledServer_again (earlier later : Environment) (target : String) (server : Server) :
    filledServer later target (filledServer earlier target server)
      = filledServer later target server := by
  simp only [filledServer, Metadata.withNamespace_withNamespace]

/-- A database stays a clone or an instance on the cluster of the environment. -/
@[simp] theorem isClone_placed (environment : Environment) (spec : DatabaseSpec) :
    (placed environment spec).isClone = spec.isClone := by
  rw [placed]
  cases environment.clusterId spec.isClone with
  | none => rfl
  | some clusterId => exact spec.isClone_withClusterId clusterId

/-- A database is placed anew where the later environment names a cluster whenever the earlier one
does. -/
theorem placed_again {spec : DatabaseSpec}
    (covered : (earlier.clusterId spec.isClone).isSome → (later.clusterId spec.isClone).isSome) :
    placed later (placed earlier spec) = placed later spec := by
  have kept := isClone_placed earlier spec
  rw [placed, kept, placed, placed]
  cases before : earlier.clusterId spec.isClone with
  | none => rfl
  | some clusterId =>
    -- The earlier cluster would only stay if the later environment named none.
    obtain ⟨other, after⟩ := Option.isSome_iff_exists.mp (covered (by rw [before]; rfl))
    rw [after]
    exact spec.withClusterId_withClusterId clusterId other

/-- A bundle whose database is placed keeps its namespace. -/
theorem namespaceName_placeDatabase (environment : Environment) (bundle : Bundle) :
    (placeDatabase environment bundle.namespaceName bundle).namespaceName
      = bundle.namespaceName := by
  apply namespaceName_of_placed
  have placed := placeDatabase_places environment bundle.namespaceName bundle .database
  rw [if_pos List.mem_cons_self] at placed
  exact placed

/-- A bundle that is filled in keeps its namespace. -/
@[simp] theorem namespaceName_filled (environment : Environment) (bundle : Bundle) :
    (bundle.filled environment).namespaceName = bundle.namespaceName :=
  namespaceName_placeDatabase environment bundle

/-- A bundle that is filled in keeps its mode. -/
@[simp] theorem isClone?_filled (environment : Environment) (bundle : Bundle) :
    (bundle.filled environment).isClone? = bundle.isClone? := by
  simp [isClone?, filled, placeDatabase, Function.comp_def]

/-- A bundle that is filled in has the records that it had. -/
@[simp] theorem isEmpty_filled (environment : Environment) (bundle : Bundle) :
    (bundle.filled environment).isEmpty = bundle.isEmpty := by
  simp [isEmpty, filled, placeDatabase, placeWorkload]

/-- A bundle that is filled in asks for the clone on the environment's cluster. -/
theorem clone?_filled (environment : Environment) (bundle : Bundle) :
    (bundle.filled environment).clone? = bundle.clone?.map environment.placedClone := by
  cases present : bundle.database with
  | none => simp [clone?, filled, placeDatabase, present]
  | some database =>
    cases mode : database.spec.mode with
    | fresh fresh =>
      have kept := placed_fresh environment mode
      simp [clone?, filled, placeDatabase, present, mode, kept]
    | clone clone =>
      have moved := placed_clone environment mode
      simp [clone?, filled, placeDatabase, present, mode, moved]

/-- What can be wrong with a bundle can be wrong with it once it is filled in. -/
theorem preparationFaults_filled (environment : Environment) (bundle : Bundle) :
    (bundle.filled environment).preparationFaults environment
      = bundle.preparationFaults environment := by
  -- The clone is on the environment's cluster already.
  have blank : (bundle.filled environment).blankCloneFields environment
      = bundle.blankCloneFields environment := by
    simp only [blankCloneFields, clone?_filled, Option.map_map, Function.comp_def,
      Environment.placedClone_placedClone]
  have named : (bundle.filled environment).databaseName = bundle.databaseName := by
    simp [databaseName, filled, placeDatabase, Function.comp_def]
  unfold preparationFaults
  rw [blank, named]
  simp [filled]

/-- The same can be wrong with bundles that are filled in alike. -/
theorem preparationFaults_congr (same : other.filled later = bundle.filled later) :
    other.preparationFaults later = bundle.preparationFaults later := by
  rw [← preparationFaults_filled later other, same, preparationFaults_filled]

/-- What a stage leaves when it succeeds is what its faults stand before. -/
theorem eq_of_unlessFaulty {faults : List (Bool × Error)}
    (succeeded : unlessFaulty faults bundle = .ok next) : next = bundle := by
  unfold unlessFaulty at succeeded
  cases found : firstFault? faults with
  | some error =>
    rw [found] at succeeded
    cases succeeded
  | none =>
    rw [found] at succeeded
    exact (Except.ok.inj succeeded).symm

/-- A record that is filled in anew is as if it had not been filled in before. -/
theorem map_refilled {ρ : Type} {first last : ρ → ρ} (record : Option ρ)
    (again : ∀ present ∈ record, last (first present) = last present) :
    (record.map first).map last = record.map last := by
  rw [Option.map_map]
  exact Option.map_congr again

/-- The stage of the database's secret leaves a bundle that is filled in alike. -/
theorem fillDatabaseSecret_refilled (later : Environment)
    (staged : fillDatabaseSecret earlier bundle.namespaceName bundle = .ok next) :
    next.filled later = bundle.filled later := by
  rw [fillDatabaseSecret_eq] at staged
  obtain rfl := eq_of_unlessFaulty staged
  have refilled := map_refilled bundle.databaseSecret fun secret _ =>
    filledDatabaseSecret_again earlier later bundle.namespaceName secret
  exact congrArg (fun databaseSecret => { bundle.filled later with databaseSecret }) refilled

/-- The stage of the control plane's secret leaves a bundle that is filled in alike. -/
theorem fillServerSecret_refilled (later : Environment)
    (staged : fillServerSecret earlier bundle.namespaceName bundle = .ok next) :
    next.filled later = bundle.filled later := by
  rw [fillServerSecret_eq] at staged
  obtain rfl := eq_of_unlessFaulty staged
  have refilled := map_refilled bundle.serverSecret fun secret _ =>
    filledServerSecret_again earlier later bundle.namespaceName secret
  exact congrArg (fun serverSecret => { bundle.filled later with serverSecret }) refilled

/-- The stage of the control plane's registration leaves a bundle that is filled in alike. -/
theorem fillServer_refilled (later : Environment)
    (staged : fillServer earlier bundle.namespaceName bundle = .ok next) :
    next.filled later = bundle.filled later := by
  rw [fillServer_eq] at staged
  obtain rfl := eq_of_unlessFaulty staged
  have refilled := map_refilled bundle.server fun server _ =>
    filledServer_again earlier later bundle.namespaceName server
  exact congrArg (fun server => { bundle.filled later with server }) refilled

/-- The later environment names a cluster for the bundle's database whenever the earlier one does. -/
def CoversCluster (earlier later : Environment) (bundle : Bundle) : Prop :=
  ∀ database, bundle.database = some database →
    (earlier.clusterId database.spec.isClone).isSome →
      (later.clusterId database.spec.isClone).isSome

/-- Which cluster is named matters only for the mode of the database. -/
theorem CoversCluster.congr (covered : CoversCluster earlier later bundle)
    (same : other.isClone? = bundle.isClone?) : CoversCluster earlier later other := by
  intro database present
  have mode : bundle.isClone? = some database.spec.isClone := by
    rw [← same, isClone?, present]
    rfl
  obtain ⟨given, there, kept⟩ := Option.map_eq_some_iff.mp mode
  rw [← kept]
  exact covered given there

/-- A database is placed in its namespace and on its cluster anew. -/
theorem placeDatabase_again (covered : CoversCluster earlier later bundle) (target : String) :
    placeDatabase later target (placeDatabase earlier target bundle)
      = placeDatabase later target bundle := by
  cases present : bundle.database with
  | none => simp only [placeDatabase, present, Option.map_none]
  | some database =>
    have onCluster := placed_again (covered database present)
    have named := database.metadata.withNamespace_withNamespace target
    simp only [placeDatabase, present, Option.map_some, named, onCluster]

/-- The stage of the database leaves a bundle that is filled in alike. -/
theorem placeDatabase_refilled (covered : CoversCluster earlier later bundle) :
    (placeDatabase earlier bundle.namespaceName bundle).filled later = bundle.filled later := by
  unfold filled
  rw [namespaceName_placeDatabase, placeDatabase_again covered]
  rfl

/-- The stage of the workload leaves a bundle that is filled in alike. -/
theorem placeWorkload_refilled (later : Environment) (bundle : Bundle) :
    (placeWorkload bundle.namespaceName bundle).filled later = bundle.filled later := by
  have again : placeWorkload bundle.namespaceName (placeWorkload bundle.namespaceName bundle)
      = placeWorkload bundle.namespaceName bundle := by
    simp only [placeWorkload, Option.map_map, Function.comp_def, Metadata.withNamespace_withNamespace]
  exact congrArg (fun placed => { bundle.filled later with workload := placed.workload }) again

/-- Whatever stages of a preparation were carried out, the bundle that they left is filled in as the
one that they were given. -/
theorem prepare_refilled (covered : CoversCluster earlier later bundle) :
    (bundle.prepare earlier).2.filled later = bundle.filled later := by
  unfold prepare
  -- The invariant: what was reached so far is filled in as the given bundle is.
  apply inTurn_preserves fun reached => reached.filled later = bundle.filled later
  · intro stage listed before next same staged
    have home : before.namespaceName = bundle.namespaceName := by
      rw [← namespaceName_filled later before, same, namespaceName_filled]
    have mode : before.isClone? = bundle.isClone? := by
      rw [← isClone?_filled later before, same, isClone?_filled]
    rw [← home] at listed
    rw [← same]
    simp only [List.mem_cons, List.not_mem_nil, or_false] at listed
    rcases listed with rfl | rfl | rfl | rfl | rfl | rfl
    · exact fillDatabaseSecret_refilled later staged
    · exact fillServerSecret_refilled later staged
    · exact fillServer_refilled later staged
    · obtain rfl := Except.ok.inj staged
      exact placeDatabase_refilled (covered.congr mode)
    · obtain rfl := checkClone_ok staged
      rfl
    · obtain rfl := Except.ok.inj staged
      exact placeWorkload_refilled later before
  · rfl

end Bundle

end DatabaseLifecycle
