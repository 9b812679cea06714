import ChainBroker.Docker.Platform
import ChainBroker.Proofs.Dialogue
import ChainBroker.Proofs.Port
import ChainBroker.Proofs.Table
import Mathlib.Data.List.Nodup

/-!
# The courses of the Docker platform

A container is provisioned by pulling its image, creating it and starting it; a bind is one
inspection, whose table of ports is read by the numbers in its keys.

* `Docker.Followed` and `Docker.Provisioned` list what is said in a provision, and
  `Docker.transcript_provision` says that there is nothing else.
* `Docker.Published` is a table in which a daemon shows all the ports that a container exposes. If
  their numbers are distinct, every one of them is found in it (`Docker.Published.get?_endpoints`).
-/

namespace ChainBroker.Docker

open Dialogue Attempt

variable {log : List (Exchange interface)}

/-! ## Provisions -/

/-- What is said when the items of the report on a pull are taken, up to the first error. -/
inductive Followed : List PullItem → List (Exchange interface) → Except Failure Unit → Prop where
  /-- The report ends. -/
  | finished : Followed [] [] (.ok ())
  /-- A line of progress is passed over. -/
  | progress {status : Option String} {items : List PullItem} {log : List (Exchange interface)}
      {r : Except Failure Unit} (rest : Followed items log r) :
    Followed (.ok status :: items) (⟨.pulled (.ok status), ()⟩ :: log) r
  /-- An error ends the pull. -/
  | failed (cause : Fault) (items : List PullItem) :
    Followed (.error cause :: items) [⟨.pulled (.error cause), ()⟩] (.error (.docker cause))

theorem transcript_follow {items : List PullItem} {r : Except Failure Unit}
    (h : Transcript (follow items).run log r) : Followed items log r := by
  induction items generalizing log with
  | nil =>
    obtain ⟨rfl, rfl⟩ := transcript_pure_iff.mp h
    exact .finished
  | cons item items ih =>
    obtain ⟨u, rest, rfl, h1⟩ := transcript_question_bind_iff.mp h
    cases item with
    | ok status => exact .progress (ih h1)
    | error cause =>
      obtain ⟨rfl, rfl⟩ := transcript_throw_iff.mp h1
      exact .failed cause items

/-- What is said when a workload is provisioned, and what it ends with. -/
inductive Provisioned (w : Workload) : List (Exchange interface) → Except Failure Unit → Prop where
  /-- The image cannot be pulled. -/
  | unpulled {report : List PullItem} {said : List (Exchange interface)} {e : Failure}
      (followed : Followed report said (.error e)) :
    Provisioned w (⟨.pull w.image, report⟩ :: said) (.error e)
  /-- A text of the ports is no port. -/
  | badPort {report : List PullItem} {said : List (Exchange interface)}
      (followed : Followed report said (.ok ())) {e : Failure} (parsed : w.parsedPorts = .error e) :
    Provisioned w (⟨.pull w.image, report⟩ :: said) (.error e)
  /-- The container cannot be created. -/
  | uncreated {report : List PullItem} {said : List (Exchange interface)}
      (followed : Followed report said (.ok ())) {ports : List Port}
      (parsed : w.parsedPorts = .ok ports) (cause : Fault) :
    Provisioned w
      (⟨.pull w.image, report⟩ :: said ++ [⟨.create w.name (.ofPorts w.image ports), .error cause⟩])
      (.error (.docker cause))
  /-- The container is created, and started if that can be done. -/
  | created {report : List PullItem} {said : List (Exchange interface)}
      (followed : Followed report said (.ok ())) {ports : List Port}
      (parsed : w.parsedPorts = .ok ports) (started : Except Fault Unit) :
    Provisioned w
      (⟨.pull w.image, report⟩ :: said ++
        [⟨.create w.name (.ofPorts w.image ports), .ok ()⟩, ⟨.start w.name, started⟩])
      (started.mapError .docker)

/-- A provision takes one of the courses. -/
theorem transcript_provision {w : Workload} {r : Except Failure Unit}
    (h : Transcript (provision w).run log r) : Provisioned w log r := by
  rcases transcript_attempt_bind_iff.mp h with ⟨e, rfl, h1⟩ | ⟨pulled, u, rest, rfl, h1, h2⟩
  · obtain ⟨report, said, rfl, h2⟩ := transcript_question_bind_iff.mp h1
    exact .unpulled (transcript_follow h2)
  · obtain ⟨report, said, rfl, h3⟩ := transcript_question_bind_iff.mp h1
    have followed : Followed report said (.ok ()) := transcript_follow h3
    cases parsed : w.parsedPorts with
    | error e =>
      rw [parsed, ofExcept_error_bind] at h2
      obtain ⟨rfl, rfl⟩ := transcript_throw_iff.mp h2
      rw [List.append_nil]
      exact .badPort followed parsed
    | ok ports =>
      rw [parsed, ofExcept_ok_bind] at h2
      obtain ⟨created, rest, rfl, h4⟩ := transcript_question_bind_iff.mp h2
      cases created with
      | error cause =>
        rw [ofExcept_error_bind] at h4
        obtain ⟨rfl, rfl⟩ := transcript_throw_iff.mp h4
        exact .uncreated followed parsed cause
      | ok =>
        rw [ofExcept_ok_bind] at h4
        obtain ⟨started, rest, rfl, h5⟩ := transcript_question_bind_iff.mp h4
        obtain ⟨rfl, rfl⟩ := transcript_ofExcept_iff.mp h5
        exact .created followed parsed started

theorem Followed.pulled {items : List PullItem} {r : Except Failure Unit}
    (h : Followed items log r) : ∀ e ∈ log, ∃ item, e = ⟨.pulled item, ()⟩ := by
  induction h with
  | finished => simp
  | progress rest ih =>
    rw [List.forall_mem_cons]
    exact ⟨⟨_, rfl⟩, ih⟩
  | failed => simp

theorem Followed.of_error {items : List PullItem} {e : Failure}
    (h : Followed items log (.error e)) : ∃ cause, e = .docker cause := by
  -- the induction is on a course that may end with anything
  generalize hr : (Except.error e : Except Failure Unit) = r at h
  induction h with
  | finished => cases hr
  | progress rest ih => exact ih hr
  | failed cause =>
    cases hr
    exact ⟨cause, rfl⟩

/-- What is created is the container of the workload, with all of its ports exposed. -/
theorem Provisioned.of_create {w : Workload} {r : Except Failure Unit} (h : Provisioned w log r)
    {name : String} {config : ContainerConfig} {created : Except Fault Unit}
    (hmem : ⟨.create name config, created⟩ ∈ log) :
    name = w.name ∧ ∃ ports, w.parsedPorts = .ok ports ∧ config = .ofPorts w.image ports := by
  have notPulled : ∀ {report said r}, Followed report said r →
      ⟨.create name config, created⟩ ∉ said := by
    intro report said r followed hsaid
    obtain ⟨item, hitem⟩ := followed.pulled _ hsaid
    cases hitem
  cases h with
  | unpulled followed | badPort followed => simp [notPulled followed] at hmem
  | uncreated followed parsed | created followed parsed =>
    simp [notPulled followed] at hmem
    exact ⟨hmem.1.1, _, parsed, hmem.1.2⟩

/-- A provision fails with what the daemon says, or because a text is no port. -/
theorem Provisioned.of_error {w : Workload} {e : Failure} (h : Provisioned w log (.error e)) :
    (∃ cause, e = .docker cause) ∨ w.parsedPorts = .error e := by
  generalize hr : (Except.error e : Except Failure Unit) = r at h
  cases h with
  | unpulled followed =>
    cases hr
    exact .inl followed.of_error
  | badPort _ parsed =>
    cases hr
    exact .inr parsed
  | uncreated _ _ cause =>
    cases hr
    exact .inl ⟨cause, rfl⟩
  | created _ _ started =>
    cases started with
    | ok => cases hr
    | error cause =>
      cases hr
      exact .inl ⟨cause, rfl⟩

/-! ## Binds -/

/-- A bind is one inspection. -/
theorem transcript_bind {internalAddress externalAddress instanceId : String}
    {r : Except Failure Instance}
    (h : Transcript (bind internalAddress externalAddress instanceId).run log r) :
    ∃ inspected, log = [⟨.inspect instanceId, inspected⟩] ∧
      r = (inspected.mapError .docker).map fun inspection =>
        { internalAddress, externalAddress
          endpoints := endpoints (inspection.ports.getD []) } := by
  obtain ⟨inspected, rest, rfl, h1⟩ := transcript_question_bind_iff.mp h
  cases inspected with
  | error cause =>
    rw [ofExcept_error_bind] at h1
    obtain ⟨rfl, rfl⟩ := transcript_throw_iff.mp h1
    exact ⟨.error cause, rfl, rfl⟩
  | ok inspection =>
    rw [ofExcept_ok_bind] at h1
    obtain ⟨rfl, rfl⟩ := transcript_pure_iff.mp h1
    exact ⟨.ok inspection, rfl, rfl⟩

/-- The number is found again in the key of a port. -/
theorem numberPart_key (port : Port) : numberPart port.key = port.digits := by
  have hdigits := Text.forall_ne_of_notMem port.slash_notMem_digits
  unfold numberPart Port.key
  rw [String.append_assoc, String.toList_append, List.takeWhile_append_of_pos hdigits]
  simp

/-! ## Tables of ports -/

variable {table : PortTable} {number : String}

/-- What is found under a number is what the table shows for some key with this number. -/
theorem exists_mem_of_get?_endpoints {found : List Endpoint}
    (h : (endpoints table).get? number = some found) :
    ∃ key places, (key, places) ∈ table ∧ numberPart key = number ∧
      (places.getD []).map HostBinding.endpoint = found := by
  obtain ⟨⟨key, places⟩, hmem, heq⟩ := List.mem_map.mp (Table.exists_mem_of_get?_ofList h)
  cases heq
  exact ⟨key, places, hmem, rfl, rfl⟩

theorem mem_names_endpoints_iff :
    number ∈ (endpoints table).toList.map Prod.fst ↔
      number ∈ table.map fun entry => numberPart entry.1 := by
  unfold endpoints
  rw [Table.mem_names_ofList_iff, List.map_map]
  rfl

/-- Where no number occurs twice, every entry is found. -/
theorem get?_endpoints (distinct : (table.map fun entry => numberPart entry.1).Nodup)
    {key : String} {places : Option (List HostBinding)} (h : (key, places) ∈ table) :
    (endpoints table).get? (numberPart key) = some ((places.getD []).map HostBinding.endpoint) := by
  refine Table.get?_ofList_eq_some ?_ (List.mem_map.mpr ⟨_, h, rfl⟩)
  rwa [List.map_map]

/-- The keys that are exposed are those of the ports. -/
theorem mem_keys_ofPorts_iff {image key : String} {ports : List Port} :
    key ∈ (ContainerConfig.ofPorts image ports).exposedPorts.toList.map Prod.fst ↔
      ∃ port ∈ ports, port.key = key := by
  unfold ContainerConfig.ofPorts
  rw [Table.mem_names_ofList_iff, List.map_map]
  exact List.mem_map

/-- A table in which a daemon shows every port that is exposed, in any order, and for each of them
at least one place; each place has a port. -/
structure Published (config : ContainerConfig) (table : PortTable) : Prop where
  /-- The keys are those of the exposed ports. -/
  keys : (table.map Prod.fst).Perm (config.exposedPorts.toList.map Prod.fst)
  /-- Every key has places. -/
  places : ∀ key listed, (key, listed) ∈ table → ∃ place others, listed = some (place :: others)
  /-- Every place has a port. -/
  ports : ∀ key listed, (key, some listed) ∈ table → ∀ place ∈ listed, place.port.isSome

namespace Published

variable {image : String} {ports : List Port}

theorem mem_keys_iff (h : Published (.ofPorts image ports) table) {key : String} :
    key ∈ table.map Prod.fst ↔ ∃ port ∈ ports, port.key = key := by
  rw [h.keys.mem_iff, mem_keys_ofPorts_iff]

/-- The numbers that the table shows are those of the ports. -/
theorem mem_names_iff (h : Published (.ofPorts image ports) table) :
    number ∈ (endpoints table).toList.map Prod.fst ↔ ∃ port ∈ ports, port.digits = number := by
  rw [mem_names_endpoints_iff]
  constructor
  · intro hnumber
    obtain ⟨⟨key, places⟩, hmem, rfl⟩ := List.mem_map.mp hnumber
    obtain ⟨port, hport, rfl⟩ := h.mem_keys_iff.mp (List.mem_map.mpr ⟨_, hmem, rfl⟩)
    exact ⟨port, hport, (numberPart_key port).symm⟩
  · rintro ⟨port, hport, rfl⟩
    obtain ⟨entry, hmem, hkey⟩ := List.mem_map.mp (h.mem_keys_iff.mpr ⟨port, hport, rfl⟩)
    exact List.mem_map.mpr ⟨entry, hmem, by rw [hkey, numberPart_key]⟩

theorem nodup_numbers (h : Published (.ofPorts image ports) table)
    (distinct : (ports.map Port.number).Nodup) :
    (table.map fun entry => numberPart entry.1).Nodup := by
  have hkeys : (table.map Prod.fst).Nodup := h.keys.nodup_iff.mpr (Table.nodup_names _)
  have hmap :
      (table.map fun entry => numberPart entry.1) = (table.map Prod.fst).map numberPart := by
    rw [List.map_map]
    rfl
  rw [hmap]
  -- two keys with one number are keys of one port, so it is enough that the keys are distinct
  refine hkeys.map_on fun key hkey key' hkey' heq => ?_
  obtain ⟨port, hport, rfl⟩ := h.mem_keys_iff.mp hkey
  obtain ⟨port', hport', rfl⟩ := h.mem_keys_iff.mp hkey'
  rw [numberPart_key, numberPart_key, Port.digits_inj] at heq
  rw [List.inj_on_of_nodup_map distinct hport hport' heq]

/-- Under the number of a port stand the places that the table shows for its key. -/
theorem get?_endpoints (h : Published (.ofPorts image ports) table)
    (distinct : (ports.map Port.number).Nodup) {port : Port} (hport : port ∈ ports) :
    ∃ place others, (port.key, some (place :: others)) ∈ table ∧ place.port.isSome ∧
      (endpoints table).get? port.digits = some ((place :: others).map HostBinding.endpoint) := by
  obtain ⟨⟨key, listed⟩, hmem, hkey⟩ := List.mem_map.mp (h.mem_keys_iff.mpr ⟨port, hport, rfl⟩)
  cases hkey
  obtain ⟨place, others, rfl⟩ := h.places _ _ hmem
  refine ⟨place, others, hmem, h.ports _ _ hmem place List.mem_cons_self, ?_⟩
  rw [← numberPart_key]
  exact Docker.get?_endpoints (h.nodup_numbers distinct) hmem

end Published

end ChainBroker.Docker
