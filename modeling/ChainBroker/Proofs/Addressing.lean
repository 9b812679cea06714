import ChainBroker.Docker.Platform
import ChainBroker.Docker.Wire
import ChainBroker.Kubernetes.Platform
import ChainBroker.Kubernetes.Wire
import ChainBroker.Proofs.KubernetesCluster
import ChainBroker.Proofs.Targets
import ChainBroker.Proofs.World

/-!
# What requests address

The id of an instance is put into the targets of requests as it is, and what a server finds there
need not be the id.

1. The target of a container is read as the path of a URL, so its own requests are found to be for a
   container of its name exactly if the id is plain (`Docker.IsPlain.isOwn_remove`,
   `Docker.IsOwn.isPlain`).
2. The target of a pod or a service is only cut at its marks (`Kubernetes.Behind`), so the id has to
   stand for itself there (`Kubernetes.Behind.names_iff`).
3. What is sent for an instance are these requests (`Docker.sends_iff`), so it is addressed by its
   own id exactly if this is plain (`instances_addressed`). The requests for another id may address
   an instance as well (`inst2_addressed_by_others`).
-/

namespace ChainBroker

open Percent (utf8)

/-! ## Containers -/

namespace Docker

open Url Wire

/-- An id that stands for itself in the path of every request for its container. -/
structure IsPlain (id : String) : Prop extends IsSegment id where
  /-- There are no tabs and line breaks in it. -/
  unbroken : ∀ c ∈ id.toList, c ≠ '\t' ∧ c ≠ '\n' ∧ c ≠ '\r'
  /-- It does not end with a blank. -/
  ended : ∀ c, id.toList.getLast? = some c → ¬c ≤ ' '
  /-- It is no dots. -/
  notDots : id ≠ "." ∧ id ≠ ".."

/-- All that is dropped from a target are tabulators and breaks of lines. -/
theorem isKept_iff {c : Char} : isKept c = true ↔ c ≠ '\t' ∧ c ≠ '\n' ∧ c ≠ '\r' := by
  simp [isKept, and_assoc]

/-- The names of a target are read off the id and what is done, less the blanks at the end, up to a
mark. -/
theorem names_containerTarget (name action : String) :
    Http.names (containerTarget name action) =
      [] :: (readSegments [] ("containers".toList :: Text.splitAt '/'
        (beforeMarks ((trimEnd (name.toList ++ action.toList)).filter isKept)))).map
          fun segment => Percent.decode (utf8 segment) := by
  have hclean : clean ("/containers/" ++ name ++ action).toList =
      '/' :: ("containers/".toList ++
        (trimEnd (name.toList ++ action.toList)).filter isKept) := by
    rw [String.toList_append, String.toList_append, List.append_assoc]
    exact clean_containers _
  have hsplit : ∀ s, Text.splitAt '/' ("containers/".toList ++ s) =
      "containers".toList :: Text.splitAt '/' s := fun s =>
    (Text.splitAt_append "containers".toList s).trans
      (congrArg (· ++ Text.splitAt '/' s) (Text.splitAt_of_not_mem (by decide)))
  unfold containerTarget
  rw [names_targetOf hclean, beforeMarks_append (List.all_iff_forall_prop.mp (by decide)), hsplit]

/-- What is read as dots is dots, unless there is an escape in it. -/
theorem dots_encode_ne {s : List Char} (h : Percent.decode (utf8 s) = utf8 s) {d : List Char}
    (hd : Percent.decode (utf8 d) = utf8 d) (hne : s ≠ d) :
    dots (Percent.encode Percent.path s) ≠ d := by
  rintro rfl
  refine hne (utf8_inj.mp ?_)
  rw [← h, ← hd, Percent.decode_dots, Percent.decode_encode Percent.spares_path]

/-- Parts that are plain are the names. -/
theorem names_of_parts {parts : List (List Char)}
    (h : ∀ part ∈ parts, Percent.decode (utf8 part) = utf8 part ∧ part ≠ ['.', '.'] ∧ part ≠ ['.']) :
    (readSegments [] parts).map (fun segment => Percent.decode (utf8 segment)) = parts.map utf8 := by
  rw [readSegments_of_isName, List.reverse_nil, List.nil_append, List.map_map]
  · refine List.map_congr_left fun part hpart => ?_
    exact (Percent.decode_encode Percent.spares_path part).trans (h part hpart).1
  · intro part hpart
    obtain ⟨hdecode, hparent, hself⟩ := h part hpart
    exact ⟨dots_encode_ne hdecode rfl hparent, dots_encode_ne hdecode rfl hself⟩

/-- The request is for the container of the id, or for an action on it. -/
def IsOwn (id : String) (r : Http.Request) : Prop :=
  ∃ action ∈ [[], ["stop"], ["json"]], r.Addresses (["", "containers", id] ++ action)

namespace IsPlain

variable {id : String}

/-- A plain id is a part of a path that stands for itself. -/
theorem part (h : IsPlain id) : Percent.decode (utf8 id.toList) = utf8 id.toList ∧
    id.toList ≠ ['.', '.'] ∧ id.toList ≠ ['.'] := by
  refine ⟨h.undecoded, ?_, ?_⟩
  · intro hdots
    exact h.notDots.2 (String.toList_inj.mp hdots)
  · intro hdots
    exact h.notDots.1 (String.toList_inj.mp hdots)

theorem of_isAlphanum (h : id.toList.all Char.isAlphanum = true) : IsPlain id := by
  have hall := List.all_eq_true.mp h
  refine ⟨.of_isAlphanum h, ?_, ?_, ?_⟩
  · intro c hc
    exact ⟨ne_of_isAlphanum (hall c hc) rfl, ne_of_isAlphanum (hall c hc) rfl,
      ne_of_isAlphanum (hall c hc) rfl⟩
  · intro c hc hblank
    have hsmall : ∀ n ≤ 32, (Char.ofNat n).isAlphanum = false := by decide
    have hfalse := hsmall c.toNat hblank
    rw [Char.ofNat_toNat, hall c (List.mem_of_getLast? hc)] at hfalse
    cases hfalse
  · constructor
    · rintro rfl
      exact ne_of_isAlphanum (hall '.' (by decide)) rfl rfl
    · rintro rfl
      exact ne_of_isAlphanum (hall '.' (by decide)) rfl rfl

theorem filter_trimEnd_eq (h : IsPlain id) :
    (trimEnd id.toList).filter isKept = id.toList := by
  rw [filter_trimEnd_eq_self_iff]
  exact ⟨fun c hc => isKept_iff.mpr (h.unbroken c hc), h.ended⟩

/-- The target of a removal names the container alone, -/
theorem names_remove (h : IsPlain id) :
    Http.names (containerTarget id "") = ["", "containers", id].map Utf8.encode := by
  have hcontainers : IsPlain "containers" := .of_isAlphanum (by decide)
  rw [names_containerTarget, String.toList_empty, List.append_nil, h.filter_trimEnd_eq,
    h.beforeMarks_eq, h.splitAt_eq, names_of_parts]
  · rfl
  · rw [List.forall_mem_cons, List.forall_mem_singleton]
    exact ⟨hcontainers.part, h.part⟩

/-- and any other target names what is done behind it. -/
theorem names_action (h : IsPlain id) {action word : String}
    (haction : action.toList = '/' :: word.toList) (hword : IsPlain word) :
    Http.names (containerTarget id action) =
      ["", "containers", id, word].map Utf8.encode := by
  have hcontainers : IsPlain "containers" := .of_isAlphanum (by decide)
  have hfilter : (trimEnd (id.toList ++ '/' :: word.toList)).filter isKept =
      id.toList ++ '/' :: word.toList := by
    have hslash : trimEnd ('/' :: word.toList) = '/' :: trimEnd word.toList :=
      trimEnd_append (a := ['/']) rfl _
    rw [trimEnd_append (trimEnd_eq_self_iff.mpr h.ended), hslash,
      trimEnd_eq_self_iff.mpr hword.ended, List.filter_eq_self, List.forall_mem_append,
      List.forall_mem_cons]
    exact ⟨fun c hc => isKept_iff.mpr (h.unbroken c hc), rfl,
      fun c hc => isKept_iff.mpr (hword.unbroken c hc)⟩
  have hbefore : beforeMarks (id.toList ++ '/' :: word.toList) =
      id.toList ++ '/' :: word.toList := by
    refine beforeMarks_of_forall ?_
    rw [List.forall_mem_append, List.forall_mem_cons]
    exact ⟨fun c hc => (h.unmarked c hc).2, by decide, fun c hc => (hword.unmarked c hc).2⟩
  rw [names_containerTarget, haction, hfilter, hbefore, Text.splitAt_append, h.splitAt_eq,
    hword.splitAt_eq, List.singleton_append, names_of_parts]
  · rfl
  · rw [List.forall_mem_cons, List.forall_mem_cons, List.forall_mem_singleton]
    exact ⟨hcontainers.part, h.part, hword.part⟩

/-- A plain id is stopped, -/
theorem isOwn_stop (h : IsPlain id) : IsOwn id (stopRequest id) := by
  refine ⟨["stop"], by simp, h.names_action rfl ?_⟩
  exact .of_isAlphanum (by decide)

/-- removed -/
theorem isOwn_remove (h : IsPlain id) : IsOwn id (removeRequest id) :=
  ⟨[], by simp, h.names_remove⟩

/-- and inspected under its own name. -/
theorem isOwn_inspect (h : IsPlain id) : IsOwn id (inspectRequest id) := by
  refine ⟨["json"], by simp, h.names_action rfl ?_⟩
  exact .of_isAlphanum (by decide)

end IsPlain

/-- Only a plain id is found in the target of the removal. -/
theorem IsOwn.isPlain {id : String} (h : IsOwn id (removeRequest id)) : IsPlain id := by
  obtain ⟨action, -, hnames⟩ := h
  unfold Http.Request.Addresses removeRequest at hnames
  rw [names_containerTarget, String.toList_empty, List.append_nil, List.map_append,
    List.map_cons, List.cons_append] at hnames
  -- the id is one of the names behind the first slash, so it comes from a part of the path
  have hmem : Utf8.encode id ∈ ["containers", id].map Utf8.encode ++ action.map Utf8.encode :=
    List.mem_append_left _ (List.mem_map.mpr ⟨id, by simp, rfl⟩)
  rw [← (List.cons.inj hnames).2] at hmem
  obtain ⟨segment, hsegment, hid⟩ := List.mem_map.mp hmem
  rcases mem_readSegments hsegment with h | rfl | ⟨part, hpart, hname, rfl⟩
  · cases h
  · obtain rfl : "" = id := Utf8.encode_inj.mp hid
    exact .of_isAlphanum (by decide)
  · rw [Percent.decode_encode Percent.spares_path] at hid
    rcases List.mem_cons.mp hpart with rfl | hpart
    · obtain rfl : "containers" = id := by
        refine Utf8.encode_inj.mp (Eq.trans ?_ hid)
        exact (Percent.decode_utf8_of_not_mem (by decide)).symm
      exact .of_isAlphanum (by decide)
    · have hsub : ((trimEnd id.toList).filter isKept).Sublist id.toList :=
        List.filter_sublist.trans (trimEnd_sublist id.toList)
      obtain ⟨htext, hsegment⟩ := isSegment_of_part hsub hpart hid
      obtain ⟨hkept, hended⟩ := filter_trimEnd_eq_self_iff.mp htext
      rw [htext, hsegment.beforeMarks_eq, hsegment.splitAt_eq, List.mem_singleton] at hpart
      rw [hpart] at hname
      refine ⟨hsegment, fun c hc => isKept_iff.mp (hkept c hc), hended, ?_, ?_⟩
      · rintro rfl
        exact hname.2 rfl
      · rintro rfl
        exact hname.1 rfl

/-- A request is for the container of one id only. -/
theorem IsOwn.unique {id id' : String} {r r' : Http.Request} (h : IsOwn id r) (h' : IsOwn id' r')
    (htarget : r.target = r'.target) : id = id' := by
  obtain ⟨action, -, hnames⟩ := h
  obtain ⟨action', -, hnames'⟩ := h'
  unfold Http.Request.Addresses at hnames hnames'
  rw [htarget, hnames'] at hnames
  simp only [List.cons_append, List.nil_append, List.map_cons, List.cons.injEq] at hnames
  exact Utf8.encode_inj.mp hnames.2.2.1.symm

end Docker

/-! ## Pods and services -/

namespace Kubernetes

open Url Wire

/-- The request is for an object of a kind under a name. -/
def Names (inNamespace kind name : String) (r : Http.Request) : Prop :=
  r.Addresses ["", "api", "v1", "namespaces", inNamespace, kind, name]

/-- The request is for the pod of the id, or for its service. -/
def IsOwn (inNamespace id : String) (r : Http.Request) : Prop :=
  Names inNamespace "pods" id r ∨ Names inNamespace "services" (serviceName id) r

variable {inNamespace kind : String}

/-- The segments in front of an object's name are those of the kind and the namespace. -/
theorem splitAt_objects (hnamespace : IsSegment inNamespace) (hkind : IsSegment kind)
    (s : List Char) :
    Text.splitAt '/' ((objects inNamespace kind).toList ++ '/' :: s) =
      ["", "api", "v1", "namespaces", inNamespace, kind].map String.toList ++
        Text.splitAt '/' s := by
  have hobjects : (objects inNamespace kind).toList =
      "/api/v1/namespaces".toList ++ '/' :: (inNamespace.toList ++ '/' :: kind.toList) := by
    unfold objects
    rw [String.toList_append, String.toList_append, String.toList_append]
    simp
  have hfront : Text.splitAt '/' "/api/v1/namespaces".toList =
      ["", "api", "v1", "namespaces"].map String.toList := by decide
  rw [hobjects, Text.splitAt_append, Text.splitAt_append, Text.splitAt_append, hfront,
    hnamespace.splitAt_eq, hkind.splitAt_eq]
  rfl

/-- They stand for themselves. -/
theorem decode_objects (hnamespace : IsSegment inNamespace) (hkind : IsSegment kind) :
    (["", "api", "v1", "namespaces", inNamespace, kind].map String.toList).map
        (fun part => Percent.decode (utf8 part)) =
      ["", "api", "v1", "namespaces", inNamespace, kind].map Utf8.encode := by
  have hsegments : ∀ part ∈ ["", "api", "v1", "namespaces", inNamespace, kind], IsSegment part := by
    have hconst : ∀ part ∈ ["", "api", "v1", "namespaces"],
        part.toList.all Char.isAlphanum = true := List.all_iff_forall_prop.mp (by decide)
    intro part hpart
    rcases List.mem_append.mp (show part ∈ ["", "api", "v1", "namespaces"] ++ [inNamespace, kind]
      from hpart) with hpart | hpart
    · exact .of_isAlphanum (hconst part hpart)
    · rcases List.mem_pair.mp hpart with rfl | rfl
      · exact hnamespace
      · exact hkind
  rw [List.map_map]
  exact List.map_congr_left fun part hpart => (hsegments part hpart).undecoded

/-- The names of the target are those of the kind, and behind them what is found in the name. -/
def Behind (inNamespace kind name : String) (r : Http.Request) : Prop :=
  Http.names r.target =
    ["", "api", "v1", "namespaces", inNamespace, kind].map Utf8.encode ++
      (Text.splitAt '/' (beforeMarks name.toList)).map fun part => Percent.decode (utf8 part)

/-- Every request for an object has its name behind the kind and the namespace. -/
theorem behind_of_request {method : Http.Method} {name target : String} {body : Option Json}
    {r : Http.Request} (hnamespace : IsSegment inNamespace) (hkind : IsSegment kind)
    (htarget : beforeMarks target.toList =
      beforeMarks ((objects inNamespace kind).toList ++ '/' :: name.toList))
    (h : request method target body = .ok r) : Behind inNamespace kind name r := by
  have hr : r.target = String.ofList (withoutFragment target) := by
    unfold request at h
    split at h
    · cases h
    · split at h
      · cases h
        rfl
      · cases h
  -- no mark ends the path before the name starts
  have hmarks : ∀ c ∈ (objects inNamespace kind).toList ++ ['/'], c ≠ '#' ∧ c ≠ '?' := by
    unfold objects
    simp only [String.toList_append, List.forall_mem_append]
    have hfront : ∀ c ∈ "/api/v1/namespaces/".toList, c ≠ '#' ∧ c ≠ '?' :=
      List.all_iff_forall_prop.mp (by decide)
    have hslash : ∀ c ∈ ['/'], c ≠ '#' ∧ c ≠ '?' := List.forall_mem_singleton.mpr (by decide)
    refine ⟨⟨⟨⟨hfront, ?_⟩, hslash⟩, ?_⟩, hslash⟩
    · exact fun c hc => (hnamespace.unmarked c hc).2
    · exact fun c hc => (hkind.unmarked c hc).2
  have hnames : Http.names r.target = (Text.splitAt '/' (beforeMarks target.toList)).map
      fun part => Percent.decode (utf8 part) := by
    unfold Http.names
    rw [hr, String.toList_ofList]
    rfl
  unfold Behind
  rw [hnames, htarget, List.append_cons, beforeMarks_append hmarks, ← List.append_cons,
    splitAt_objects hnamespace hkind, List.map_append, decode_objects hnamespace hkind]

theorem behind_of_delete {name : String} {r : Http.Request} (hnamespace : IsSegment inNamespace)
    (hkind : IsSegment kind) (h : deleteRequest inNamespace kind name = .ok r) :
    Behind inNamespace kind name r := by
  unfold deleteRequest at h
  split at h
  · cases h
  · refine behind_of_request hnamespace hkind ?_ h
    rw [String.toList_append, String.toList_append, String.toList_append,
      List.append_assoc _ _ name.toList]
    exact beforeMarks_concat_question _

theorem behind_of_get {name : String} {r : Http.Request} (hnamespace : IsSegment inNamespace)
    (h : getRequest inNamespace name = .ok r) : Behind inNamespace "services" name r := by
  unfold getRequest at h
  split at h
  · cases h
  · refine behind_of_request hnamespace (.of_isAlphanum (by decide)) ?_ h
    rw [String.toList_append, String.toList_append, List.append_assoc]
    rfl

namespace Behind

variable {name : String} {r : Http.Request}

/-- What is found behind a kind is the name exactly if this stands for itself. -/
theorem names_iff (h : Behind inNamespace kind name r) :
    Names inNamespace kind name r ↔ IsSegment name := by
  unfold Names Http.Request.Addresses
  rw [h]
  constructor
  · intro hnames
    have hname : (Text.splitAt '/' (beforeMarks name.toList)).map
        (fun part => Percent.decode (utf8 part)) = [Utf8.encode name] := by
      refine List.append_cancel_left (Eq.trans hnames ?_)
      rw [← List.map_singleton, ← List.map_append]
      rfl
    obtain ⟨part, hpart, hdecode⟩ := List.map_eq_singleton_iff.mp hname
    refine (isSegment_of_part (.refl _) ?_ hdecode).2
    rw [hpart]
    exact List.mem_singleton_self part
  · intro hsegment
    have hdecode : Percent.decode (utf8 name.toList) = Utf8.encode name := hsegment.undecoded
    rw [hsegment.beforeMarks_eq, hsegment.splitAt_eq, List.map_singleton, hdecode]
    rfl

/-- A target names objects of one kind. -/
theorem kind_eq (h : Behind inNamespace kind name r) {kind' name' : String}
    (h' : Names inNamespace kind' name' r) : kind = kind' := by
  unfold Names Http.Request.Addresses at h'
  rw [h] at h'
  simp only [List.map_cons, List.cons_append, List.cons.injEq] at h'
  exact Utf8.encode_inj.mp h'.2.2.2.2.2.1

end Behind

/-- What stands in front of the id makes no segment of what was none, and destroys none. -/
theorem isSegment_serviceName {id : String} : IsSegment (serviceName id) ↔ IsSegment id := by
  have hlist : (serviceName id).toList = "svc-".toList ++ id.toList := String.toList_append
  have hencode : Utf8.encode (serviceName id) = utf8 "svc-".toList ++ Utf8.encode id := by
    unfold Utf8.encode
    rw [hlist, List.flatMap_append]
  have hdecode : Percent.decode (Utf8.encode (serviceName id)) =
      utf8 "svc-".toList ++ Percent.decode (Utf8.encode id) := by
    rw [hencode]
    exact Percent.decode_append_of_ne (List.all_iff_forall_prop.mp (by decide)) _
  constructor
  · rintro ⟨hunmarked, hundecoded⟩
    rw [hlist, List.forall_mem_append] at hunmarked
    rw [hdecode, hencode] at hundecoded
    exact ⟨hunmarked.2, List.append_cancel_left hundecoded⟩
  · rintro ⟨hunmarked, hundecoded⟩
    refine ⟨?_, ?_⟩
    · rw [hlist, List.forall_mem_append]
      exact ⟨List.all_iff_forall_prop.mp (by decide), hunmarked⟩
    · rw [hdecode, hencode, hundecoded]

variable {id : String} {r : Http.Request}

/-- A request for a pod is about the instance if its id is a segment, -/
theorem isOwn_iff_of_pod (h : Behind inNamespace "pods" id r) :
    IsOwn inNamespace id r ↔ IsSegment id := by
  rw [← h.names_iff]
  constructor
  · rintro (hpod | hservice)
    · exact hpod
    · exact absurd (h.kind_eq hservice) (by decide)
  · exact .inl

/-- and so is one for a service. -/
theorem isOwn_iff_of_service (h : Behind inNamespace "services" (serviceName id) r) :
    IsOwn inNamespace id r ↔ IsSegment id := by
  rw [← isSegment_serviceName, ← h.names_iff]
  constructor
  · rintro (hpod | hservice)
    · exact absurd (h.kind_eq hpod) (by decide)
    · exact hservice
  · exact .inr

/-- The names of an object are found in no other one. -/
theorem Names.unique {kind' name name' : String} {r' : Http.Request}
    (h : Names inNamespace kind name r) (h' : Names inNamespace kind' name' r')
    (htarget : r.target = r'.target) : kind = kind' ∧ name = name' := by
  unfold Names Http.Request.Addresses at h h'
  rw [htarget, h'] at h
  simp only [List.map_cons, List.cons.injEq] at h
  exact ⟨Utf8.encode_inj.mp h.2.2.2.2.2.1.symm, Utf8.encode_inj.mp h.2.2.2.2.2.2.1.symm⟩

/-- A request is for the objects of one id only. -/
theorem IsOwn.unique {id' : String} {r' : Http.Request} (h : IsOwn inNamespace id r)
    (h' : IsOwn inNamespace id' r') (htarget : r.target = r'.target) : id = id' := by
  rcases h with h | h <;> rcases h' with h' | h'
  · exact (h.unique h' htarget).2
  · exact absurd (h.unique h' htarget).1 (by decide)
  · exact absurd (h.unique h' htarget).1 (by decide)
  · exact serviceName_injective (h.unique h' htarget).2

end Kubernetes

/-! ## What is sent for an instance -/

/-- Every request that is sent to remove an instance or to bind it has the property, whatever the
server says; `answer` is what a question to the platform comes to. -/
def Platform.Sends {I : Interface} (p : Platform I)
    (answer : (q : I.Question) → Dialogue Http.interface (I.Answer q)) (id : String)
    (P : Http.Request → Prop) : Prop :=
  ((p.deprovision id).run.interpret answer).Only P ∧
    ∀ bindingId, ((p.bind id bindingId).run.interpret answer).Only P

/-- Of all that is sent, what follows from one property is known with it. -/
theorem Platform.Sends.mp {I : Interface} {p : Platform I}
    {answer : (q : I.Question) → Dialogue Http.interface (I.Answer q)} {id : String}
    {P Q : Http.Request → Prop} (h : p.Sends answer id fun r => P r → Q r)
    (h' : p.Sends answer id P) : p.Sends answer id Q :=
  ⟨h.1.mp h'.1, fun bindingId => (h.2 bindingId).mp (h'.2 bindingId)⟩

namespace Docker

open Wire

variable {internalAddress externalAddress id : String} {P : Http.Request → Prop}

theorem only_send {α : Type} {request : Http.Request} {read : Http.Outcome → α} (h : P request) :
    (send request read).Only P :=
  ⟨h, fun _ => trivial⟩

/-- The requests for an instance are those that stop, remove and show its container. -/
theorem sends_iff :
    (platform internalAddress externalAddress).Sends answer id P ↔
      P (stopRequest id) ∧ P (removeRequest id) ∧ P (inspectRequest id) := by
  constructor
  · intro h
    -- the removal is requested once the container has been stopped
    have hstopped := h.1.2 (.answered 204 [])
    exact ⟨h.1.1, hstopped.1, (h.2 "").1⟩
  · rintro ⟨hstop, hremove, hinspect⟩
    constructor
    · have honly : (deprovision id).run.Only fun q : Call => q = .stop id ∨ q = .remove id := by
        refine Attempt.only_question_bind (.inl rfl) fun stopped => ?_
        refine Attempt.only_bind Attempt.only_ofExcept fun _ => ?_
        exact Attempt.only_question_bind (.inr rfl) fun removed => Attempt.only_ofExcept
      refine honly.interpret fun q hq => ?_
      rcases hq with rfl | rfl
      · exact only_send hstop
      · exact only_send hremove
    · intro bindingId
      have honly : (bind internalAddress externalAddress id).run.Only
          fun q : Call => q = .inspect id := by
        refine Attempt.only_question_bind rfl fun inspected => ?_
        exact Attempt.only_bind Attempt.only_ofExcept fun _ => trivial
      refine honly.interpret fun q hq => ?_
      subst hq
      exact only_send hinspect

/-- Docker is asked about the container of the id exactly if the id is plain. -/
theorem sends_isOwn_iff :
    (platform internalAddress externalAddress).Sends answer id (IsOwn id) ↔ IsPlain id := by
  rw [sends_iff]
  constructor
  · rintro ⟨-, hremove, -⟩
    exact hremove.isPlain
  · intro h
    exact ⟨h.isOwn_stop, h.isOwn_remove, h.isOwn_inspect⟩

end Docker

namespace Kubernetes

open Wire

variable {host inNamespace id : String} {P : Http.Request → Prop}

theorem only_send {α : Type} {request : Except Fault Http.Request} {r : Json.Reader α}
    (h : ∀ sent, request = .ok sent → P sent) : (send request r).Only P := by
  cases request with
  | error fault => trivial
  | ok sent => exact ⟨h sent rfl, fun _ => trivial⟩

/-- Whatever is sent is for the objects of the id exactly if this stands for itself. -/
theorem sends_isOwn_iff_isSegment (hnamespace : IsSegment inNamespace) :
    (platform host).Sends (answer inNamespace) id fun r =>
      IsOwn inNamespace id r ↔ IsSegment id := by
  have hpods : IsSegment "pods" := .of_isAlphanum (by decide)
  have hservices : IsSegment "services" := .of_isAlphanum (by decide)
  constructor
  · have honly : (deprovision id).run.Only fun q : Call =>
        q = .deletePod id ∨ q = .deleteService (serviceName id) := by
      refine Attempt.only_question_bind (.inl rfl) fun pod => ?_
      exact Attempt.only_question_bind (.inr rfl) fun service => trivial
    refine honly.interpret fun q hq => ?_
    rcases hq with rfl | rfl
    · exact only_send fun sent h => isOwn_iff_of_pod (behind_of_delete hnamespace hpods h)
    · exact only_send fun sent h => isOwn_iff_of_service (behind_of_delete hnamespace hservices h)
  · intro bindingId
    have honly : (bind host id).run.Only fun q : Call => q = .getService (serviceName id) := by
      refine Attempt.only_question_bind rfl fun service => ?_
      exact Attempt.only_bind Attempt.only_ofExcept fun _ => trivial
    refine honly.interpret fun q hq => ?_
    subst hq
    exact only_send fun sent h => isOwn_iff_of_service (behind_of_get hnamespace h)

/-- A cluster is asked about the objects of the id exactly if the id is a segment, or not at all. -/
theorem sends_isOwn_iff (hnamespace : IsSegment inNamespace) :
    (platform host).Sends (answer inNamespace) id (IsOwn inNamespace id) ↔
      IsSegment id ∨ (platform host).Sends (answer inNamespace) id fun _ => False := by
  have hsent : (platform host).Sends (answer inNamespace) id fun r =>
      IsOwn inNamespace id r ↔ IsSegment id := sends_isOwn_iff_isSegment hnamespace
  constructor
  · intro hown
    by_cases h : IsSegment id
    · exact .inl h
    · -- what is sent is own and foreign at once, so nothing is
      simp only [h, iff_false] at hsent
      exact .inr (hsent.mp hown)
  · rintro (h | hnone)
    · simpa only [h, iff_true] using hsent
    · exact ⟨hnone.1.mono fun _ => False.elim,
        fun bindingId => (hnone.2 bindingId).mono fun _ => False.elim⟩

end Kubernetes

/-! ## Main result -/

/-- **Requests for an instance are addressed to its own objects** exactly if its id is plain, and
then to those of no other instance. In a cluster this holds as well if nothing can be sent. -/
theorem instances_addressed (internalAddress externalAddress host : String) {inNamespace : String}
    (hnamespace : IsSegment inNamespace) (id : String) :
    ((Docker.platform internalAddress externalAddress).Sends Docker.Wire.answer id
        (Docker.IsOwn id) ↔ Docker.IsPlain id) ∧
      ((Kubernetes.platform host).Sends (Kubernetes.Wire.answer inNamespace) id
        (Kubernetes.IsOwn inNamespace id) ↔
          IsSegment id ∨ (Kubernetes.platform host).Sends (Kubernetes.Wire.answer inNamespace) id
            fun _ => False) ∧
      ∀ id' r r', id ≠ id' →
        (Docker.IsOwn id r → Docker.IsOwn id' r' → r.target ≠ r'.target) ∧
          (Kubernetes.IsOwn inNamespace id r → Kubernetes.IsOwn inNamespace id' r' →
            r.target ≠ r'.target) := by
  refine ⟨Docker.sends_isOwn_iff, Kubernetes.sends_isOwn_iff hnamespace, ?_⟩
  intro id' r r' hne
  constructor
  · intro h h' htarget
    exact hne (h.unique h' htarget)
  · intro h h' htarget
    exact hne (h.unique h' htarget)

theorem isPlain_inst2 : Docker.IsPlain "inst-2" where
  unmarked := List.all_iff_forall_prop.mp (by decide)
  undecoded := Percent.decode_utf8_of_not_mem (by decide)
  unbroken := List.all_iff_forall_prop.mp (by decide)
  ended := by
    intro c hc
    cases hc
    decide
  notDots := by decide

/-- The instance `inst-2` is addressed by its own requests. It is addressed by those for
`x/../inst-2` as well: these stop and remove the container of `inst-2`. -/
theorem inst2_addressed_by_others :
    (Docker.platform "127.0.0.1" "12.34.56.78").Sends Docker.Wire.answer "inst-2"
        (Docker.IsOwn "inst-2") ∧
      (Kubernetes.platform "12.34.56.78").Sends (Kubernetes.Wire.answer "default") "inst-2"
        (Kubernetes.IsOwn "default" "inst-2") ∧
      (Docker.Wire.stopRequest "x/../inst-2").target = "/containers/inst-2/stop" ∧
      (Docker.Wire.removeRequest "x/../inst-2").target = "/containers/inst-2" ∧
      ¬(Docker.platform "127.0.0.1" "12.34.56.78").Sends Docker.Wire.answer "x/../inst-2"
        (Docker.IsOwn "x/../inst-2") := by
  have hdefault : IsSegment "default" := .of_isAlphanum (by decide)
  obtain ⟨hdocker, hkubernetes, -⟩ :=
    instances_addressed "127.0.0.1" "12.34.56.78" "12.34.56.78" hdefault "inst-2"
  obtain ⟨hforeign, -, -⟩ :=
    instances_addressed "127.0.0.1" "12.34.56.78" "12.34.56.78" hdefault "x/../inst-2"
  refine ⟨hdocker.mpr isPlain_inst2, hkubernetes.mpr (.inl isPlain_inst2.toIsSegment),
    by decide +kernel, by decide +kernel, ?_⟩
  intro hown
  exact ((hforeign.mp hown).unmarked '/' (by decide)).1 rfl

end ChainBroker
