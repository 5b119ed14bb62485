import Mathlib.Data.Finset.Basic
import Mathlib.Data.List.AList

/-!
# Service discovery results

`gu-lan` asks mDNS for a list of services. `ServicesDescription::to_services`
registers the full name of each with no instance; each response adds its
instance under the name it answered, and is dropped when that name was not
asked for; `collect` gathers every instance. The `HashMap` is an `AList` and each
`HashSet` a `Finset`.
-/

namespace GolemUnlimited.Lan

/-- `std::net::IpAddr`, by its bits. -/
inductive IpAddr
  | v4 (bits : UInt32)
  | v6 (high low : UInt64)
  deriving DecidableEq, Repr

/-- `ServiceDescription`: one service in the `.local` domain. -/
structure ServiceDescription where
  /-- The instance name, as `gu-provider`. -/
  «instance» : String
  /-- The service type, as `_http._tcp`. -/
  service : String
  deriving DecidableEq, Repr

/-- `ServiceDescription::to_string`: the service's full name. -/
def ServiceDescription.toString (d : ServiceDescription) : String :=
  d.«instance» ++ "." ++ d.service ++ ".local"

/-- `ServicesDescription`: the services of one query. -/
structure ServicesDescription where
  services : List ServiceDescription
  deriving DecidableEq, Repr

/-- `ServiceInstance`: one host that answered. -/
structure ServiceInstance where
  host : String
  txt : List String
  addrs : List IpAddr
  ports : List UInt16
  deriving DecidableEq, Repr

/-- `Services`: the instances found so far under each name asked for. -/
structure Services where
  map : AList (fun _ : String => Finset ServiceInstance)

namespace Services

/-- `Services::new`. -/
def new : Services := ⟨∅⟩

/-- `Services::add_service`: the name with no instance, replacing any entry. -/
def addService (m : Services) (s : String) : Services := ⟨m.map.insert s ∅⟩

/-- `Services::add_instance`: the instance joins the set of its name, if the name
is there, and is dropped otherwise. -/
def addInstance (m : Services) (name : String) (inst : ServiceInstance) : Services :=
  match m.map.lookup name with
  | some set => ⟨m.map.insert name (insert inst set)⟩
  | none => m

/-- `Services::collect`: the union of the instances of every name. -/
def collect (m : Services) : Finset ServiceInstance :=
  m.map.entries.foldl (fun set e => set ∪ e.2) ∅

/-- The responses of a query, `add_instance` after `add_instance`. -/
def addAll (m : Services) (calls : List (String × ServiceInstance)) : Services :=
  calls.foldl (fun m c => m.addInstance c.1 c.2) m

/-- `add_service` gives its name an empty set and keeps every other name. -/
@[simp] theorem lookup_addService (m : Services) (s n : String) :
    (m.addService s).map.lookup n = if n = s then some ∅ else m.map.lookup n := by
  split
  · subst n; exact AList.lookup_insert _
  · exact AList.lookup_insert_ne ‹_›

/-- `add_instance` adds the instance to the set of its name, if the name is there. -/
@[simp] theorem lookup_addInstance (m : Services) (name n : String) (inst : ServiceInstance) :
    (m.addInstance name inst).map.lookup n =
      if n = name then (m.map.lookup n).map (insert inst) else m.map.lookup n := by
  unfold addInstance
  split
  · next set hset =>
    split
    · subst n; simp [hset]
    · exact AList.lookup_insert_ne ‹_›
  · next hnone =>
    split
    · subst n; simp [hnone]
    · rfl

/-- After responses, each name holds the instances reported under it, if it
was there. -/
theorem lookup_addAll (m : Services) (calls : List (String × ServiceInstance)) (n : String) :
    (m.addAll calls).map.lookup n =
      (m.map.lookup n).map (· ∪ ((calls.filter (·.1 = n)).map Prod.snd).toFinset) := by
  induction calls generalizing m with
  | nil => cases h : m.map.lookup n <;> simp [addAll, h]
  | cons c calls ih =>
    simp only [addAll, List.foldl_cons] at ih ⊢
    rw [ih, lookup_addInstance]
    by_cases hc : n = c.1
    · cases h : m.map.lookup n <;> simp [h, hc, Finset.insert_eq, Finset.union_left_comm]
    · cases h : m.map.lookup n <;> simp [h, hc, Ne.symm hc]

/-- Folding unions over entries gathers the instances of each. -/
theorem mem_foldl_union {i : ServiceInstance} (es : List (Σ _ : String, Finset ServiceInstance))
    (acc : Finset ServiceInstance) :
    i ∈ es.foldl (fun set e => set ∪ e.2) acc ↔ i ∈ acc ∨ ∃ e ∈ es, i ∈ e.2 := by
  induction es generalizing acc with
  | nil => simp
  | cons e es ih => simp [ih, or_assoc]

/-- `collect` holds exactly the instances found under some name. -/
theorem mem_collect {m : Services} {i : ServiceInstance} :
    i ∈ m.collect ↔ ∃ n set, m.map.lookup n = some set ∧ i ∈ set := by
  simp only [collect, mem_foldl_union, Finset.not_mem_empty, false_or]
  constructor
  · rintro ⟨⟨n, set⟩, hmem, hi⟩
    exact ⟨n, set, AList.mem_lookup_iff.mpr hmem, hi⟩
  · rintro ⟨n, set, hmem, hi⟩
    exact ⟨⟨n, set⟩, AList.mem_lookup_iff.mp hmem, hi⟩

end Services

/-- `ServicesDescription::to_services`. -/
def ServicesDescription.toServices (sd : ServicesDescription) : Services :=
  sd.services.foldl (fun m i => m.addService i.toString) Services.new

/-- Adding services registers the name of each with no instance. -/
theorem lookup_foldl_addService (ds : List ServiceDescription) (m : Services) (n : String) :
    (ds.foldl (fun m i => m.addService i.toString) m).map.lookup n =
      if n ∈ ds.map ServiceDescription.toString then some ∅ else m.map.lookup n := by
  induction ds generalizing m with
  | nil => simp
  | cons d ds ih =>
    rw [List.foldl_cons, ih, Services.lookup_addService]
    by_cases hd : n = d.toString <;> simp [hd]

/-- After any responses to the query of `sd`, `collect` returns exactly the
instances reported under the full name of a service of the query. -/
theorem collect_toServices (sd : ServicesDescription) (calls : List (String × ServiceInstance)) :
    (sd.toServices.addAll calls).collect =
      ((calls.filter fun c => c.1 ∈ sd.services.map ServiceDescription.toString).map
        Prod.snd).toFinset := by
  ext i
  simp only [Services.mem_collect, Services.lookup_addAll, ServicesDescription.toServices,
    lookup_foldl_addService]
  simp only [List.mem_map, Services.new, AList.lookup_empty, Option.map_if, Finset.empty_union,
    Option.ite_none_right_eq_some, Option.some.injEq, List.mem_toFinset, List.mem_filter,
    decide_eq_true_eq, Prod.exists, exists_eq_right]
  constructor
  · rintro ⟨n, _, ⟨hn, rfl⟩, hi⟩
    simp only [List.mem_toFinset, List.mem_map, List.mem_filter, decide_eq_true_eq,
      Prod.exists] at hi
    obtain ⟨a, b, ⟨hmem, rfl⟩, rfl⟩ := hi
    exact ⟨a, hmem, hn⟩
  · rintro ⟨n, hmem, hn⟩
    refine ⟨n, _, ⟨hn, rfl⟩, ?_⟩
    exact List.mem_toFinset.mpr (List.mem_map.mpr ⟨(n, i), List.mem_filter.mpr ⟨hmem, by simp⟩, rfl⟩)

end GolemUnlimited.Lan
