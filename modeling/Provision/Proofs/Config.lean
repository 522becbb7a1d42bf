import Provision.Config
import Provision.Proofs.Dict

/-! Variables make the same configuration in whichever order they are gone through, except for the
addresses of services that two of them give different addresses. -/

namespace Provision.Config

/-- The addresses that settings give a service, in the order of the settings. -/
def addressesOf (settings : List (String × String)) (service : String) : List String :=
  (settings.filter fun setting => service? setting.1 = some service).map (·.2)

/-- A service is contested when two settings give it different addresses, which they can do under
names that differ only in the case of their letters. -/
def Contested (settings : List (String × String)) (service : String) : Prop :=
  ∃ one ∈ addressesOf settings service, ∃ other ∈ addressesOf settings service, one ≠ other

/-- Of the addresses of a service the last one counts. -/
theorem get?_endpointsOf (settings : List (String × String)) (service : String) :
    (endpointsOf settings).get? service = (addressesOf settings service).getLast? := by
  -- A dictionary keeps the last entry under each key.
  rw [endpointsOf, Dict.get?_ofList, ← List.getLast?_map]
  congr 1
  -- Setting by setting, one that names the service is kept on both sides, and any other on none.
  induction settings with
  | nil => rfl
  | cons setting rest ih =>
    obtain ⟨name, url⟩ := setting
    cases named : service? name with
    | none => simpa [addressesOf, named] using ih
    | some other =>
      by_cases same : other = service
      · subst same
        simpa [addressesOf, named] using ih
      · simpa [addressesOf, named, same] using ih

/-- Settings in another order give a service the same addresses in another order. -/
theorem addressesOf_perm {first second : List (String × String)} (reordered : first.Perm second)
    (service : String) : (addressesOf first service).Perm (addressesOf second service) :=
  -- Neither choosing settings nor taking their addresses depends on the order.
  (reordered.filter _).map _

/-- The address of a service that is not contested does not depend on the order of settings. -/
theorem get?_endpointsOf_perm {first second : List (String × String)}
    (reordered : first.Perm second) {service : String} (agreed : ¬Contested second service) :
    (endpointsOf first).get? service = (endpointsOf second).get? service := by
  rw [get?_endpointsOf, get?_endpointsOf]
  have shuffled := addressesOf_perm reordered service
  -- All addresses of the service are the same, so they are the same in every order.
  have alike : ∀ one ∈ addressesOf second service, ∀ other ∈ addressesOf second service,
      one = other := fun one member other memberToo =>
    not_not.mp fun differ => agreed ⟨one, member, other, memberToo, differ⟩
  cases given : addressesOf second service with
  -- Without addresses there are none in the other order either.
  | nil =>
    rw [given] at shuffled
    rw [shuffled.eq_nil]
  -- A list that repeats one address has no other order.
  | cons url rest =>
    rw [given] at alike shuffled
    have repeated := List.eq_replicate_of_mem fun other member =>
      alike other member url List.mem_cons_self
    rw [repeated, List.perm_replicate] at shuffled
    rw [shuffled, ← repeated]

/-- Each address that settings give a service is the one that counts in some order of them. -/
theorem exists_order_of_mem {settings : List (String × String)} {service url : String}
    (given : url ∈ addressesOf settings service) :
    ∃ order, order.Perm settings ∧ (endpointsOf order).get? service = some url := by
  -- An address comes from a setting that names the service.
  obtain ⟨setting, member, rfl⟩ := List.mem_map.mp given
  obtain ⟨there, named⟩ := List.mem_filter.mp member
  -- The setting is gone through last.
  refine ⟨settings.erase setting ++ [setting], ?_, ?_⟩
  · exact (List.perm_append_singleton setting _).trans (List.perm_cons_erase there).symm
  · rw [get?_endpointsOf, addressesOf, List.filter_append, List.map_append]
    simp [of_decide_eq_true named]

/-- Settings under which the same is found make the same configuration, apart from the addresses of
services. -/
theorem ofSettings_eq_map {first second : List (String × String)}
    (same : ∀ key, Entries.get? key first = Entries.get? key second) :
    ofSettings first = (ofSettings second).map ({ · with endpoints := endpointsOf first }) := by
  -- What is required and what is optional is looked up by name only.
  have required (name : String) : required first name = required second name := by
    rw [Config.required, Config.required, same]
  have optional {α : Type} (name : String) (default : α)
      (read : String → String → Except ConfigFault α) :
      optional first name default read = optional second name default read := by
    rw [Config.optional, Config.optional, same]
  -- A setting at fault is at fault on both sides, and comes first on both sides.
  show _ = (fun c : Config => { c with endpoints := endpointsOf first }) <$> ofSettings second
  simp only [ofSettings, required, optional, same, map_bind, map_pure]

/-- Variables of distinct names leave the same settings in whichever order they are given. -/
theorem settings_perm {vars again : List (String × String)} (distinct : (vars.map (·.1)).Nodup)
    (reordered : again.Perm vars) : settings again = settings vars := by
  -- Distinct names stay distinct when only some of the variables are kept.
  refine Dict.ofList_perm ?_ (reordered.filter _)
  exact distinct.sublist (List.filter_sublist.map _)

/--
Variables of distinct names make one configuration, in whichever order they are given and then gone
through, exactly if no service is contested or a setting is at fault.

In every order the same setting is reported as being at fault, or the configurations are the same
but for the addresses of contested services.
-/
theorem ofSettings_reordered {vars again : List (String × String)}
    (distinct : (vars.map (·.1)).Nodup) (reordered : again.Perm vars) :
    (∀ order, order.Perm (settings again).entries → ∃ addresses,
      ofSettings order = (ofVars vars).map ({ · with endpoints := addresses }) ∧
      ∀ service, ¬Contested (settings vars).entries service →
        addresses.get? service = (endpointsOf (settings vars).entries).get? service) ∧
    ((∀ order, order.Perm (settings again).entries → ofSettings order = ofVars vars) ↔
      (∃ fault, ofVars vars = .error fault) ∨
        ∀ service, ¬Contested (settings vars).entries service) := by
  -- The settings are sorted by name, so they do not depend on the order of the variables.
  rw [settings_perm distinct reordered]
  have unique := (settings vars).ordered.nodup
  -- Everything but the addresses is looked up, and so the same in every order.
  have general : ∀ order, order.Perm (settings vars).entries →
      ofSettings order = (ofVars vars).map ({ · with endpoints := endpointsOf order }) :=
    fun order shuffled => ofSettings_eq_map (Entries.get?_perm unique shuffled)
  refine ⟨fun order shuffled => ⟨endpointsOf order, general order shuffled, fun service agreed =>
    get?_endpointsOf_perm shuffled agreed⟩, ?_⟩
  cases made : ofVars vars with
  | error fault =>
    -- A fault is told in every order.
    refine iff_of_true (fun order shuffled => ?_) (.inl ⟨fault, rfl⟩)
    rw [general order shuffled, made]
    rfl
  -- Without a fault, two orders differ in the addresses at most.
  | ok config =>
    have ofOrder : ∀ order, order.Perm (settings vars).entries →
        ofSettings order = .ok { config with endpoints := endpointsOf order } := by
      intro order shuffled
      rw [general order shuffled, made]
      rfl
    constructor
    · -- Were a service contested, each of its two addresses would count in some order.
      intro same
      refine .inr fun service contested => ?_
      obtain ⟨one, given, other, givenToo, differ⟩ := contested
      -- Two orders that end with the two addresses make two configurations.
      obtain ⟨first, shuffled, found⟩ := exists_order_of_mem given
      obtain ⟨second, shuffledToo, foundToo⟩ := exists_order_of_mem givenToo
      have alike := (ofOrder first shuffled).symm.trans ((same first shuffled).trans
        ((same second shuffledToo).symm.trans (ofOrder second shuffledToo)))
      have endpoints : endpointsOf first = endpointsOf second :=
        congrArg Config.endpoints (Except.ok.inj alike)
      rw [endpoints, foundToo] at found
      exact differ (Option.some.inj found).symm
    · rintro (⟨fault, failed⟩ | agreed) order shuffled
      · cases failed
      · -- Services that are not contested have the same address in every order.
        have endpoints : endpointsOf order = endpointsOf (settings vars).entries :=
          Dict.eq_of_get? fun service => get?_endpointsOf_perm shuffled (agreed service)
        have sorted : ofVars vars = _ := ofOrder (settings vars).entries (.refl _)
        rw [ofOrder order shuffled, endpoints, ← sorted, made]

/-- Variables of which two give one service the same address, in capital and in small letters. -/
def sameAddress : List (String × String) :=
  [("HCS_REGION_NAME", "region-1"), ("HCS_PROJECT_ID", "p1"), ("HCS_CLOUD", "hcs.example.com"),
   ("HCS_ENDPOINT_vpc", "https://vpc.example.com/"), ("HCS_INSECURE", ""),
   ("HCS_ENDPOINT_VPC", "https://vpc.example.com/"),
   ("HCS_ENDPOINT_elb", "https://elb.example.com/")]

/-- Settings that agree on the address of a service may be gone through in any order. -/
theorem ofSettings_reordered_sameAddress :
    (sameAddress.map (·.1)).Nodup ∧ sameAddress.reverse.Perm sameAddress ∧
      (settings sameAddress).entries.reverse.Perm (settings sameAddress.reverse).entries ∧
      ofSettings (settings sameAddress).entries.reverse = ofVars sameAddress := by
  -- Both settings of the one service give the same address, which is checked pair by pair.
  have distinct : (sameAddress.map (·.1)).Nodup := by decide
  have reordered : sameAddress.reverse.Perm sameAddress := List.reverse_perm _
  have shuffled : (settings sameAddress).entries.reverse.Perm
      (settings sameAddress.reverse).entries := by decide +kernel
  have agreed : ∀ one ∈ (settings sameAddress).entries, ∀ other ∈ (settings sameAddress).entries,
      (service? one.1).isSome = true → service? one.1 = service? other.1 → one.2 = other.2 := by
    decide +kernel
  refine ⟨distinct, reordered, shuffled, ?_⟩
  refine (ofSettings_reordered distinct reordered).2.mpr (.inr fun service contested => ?_) _
    shuffled
  -- A contested service would have two settings among those that have been checked.
  obtain ⟨_, given, _, givenToo, differ⟩ := contested
  obtain ⟨one, kept, rfl⟩ := List.mem_map.mp given
  obtain ⟨other, keptToo, rfl⟩ := List.mem_map.mp givenToo
  obtain ⟨there, named⟩ := List.mem_filter.mp kept
  obtain ⟨thereToo, namedToo⟩ := List.mem_filter.mp keptToo
  have named := of_decide_eq_true named
  have namedToo := of_decide_eq_true namedToo
  exact differ (agreed one there other thereToo (by simp [named]) (named.trans namedToo.symm))

/-- Variables of which two give one service different addresses, in capital and in small letters. -/
def twoAddresses : List (String × String) :=
  [("HCS_REGION_NAME", "region-1"), ("HCS_PROJECT_ID", "p1"), ("HCS_CLOUD", "hcs.example.com"),
   ("HCS_ENDPOINT_VPC", "https://a.example.com/"), ("HCS_ENDPOINT_vpc", "https://b.example.com/")]

/-- The service has one address or the other, depending on the order. -/
theorem address_depends_on_order :
    (twoAddresses.map (·.1)).Nodup ∧
      twoAddresses.Perm (settings twoAddresses).entries ∧
      twoAddresses.reverse.Perm (settings twoAddresses).entries ∧
      (ofSettings twoAddresses).map (·.address "vpc") = .ok "https://b.example.com/" ∧
      (ofSettings twoAddresses.reverse).map (·.address "vpc") = .ok "https://a.example.com/" := by
  -- The last setting in the order decides, as the names are equal in small letters.
  refine ⟨by decide, by decide +kernel, by decide +kernel, ?_, ?_⟩
  · decide +kernel
  · decide +kernel

end Provision.Config
