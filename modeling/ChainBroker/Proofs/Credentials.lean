import ChainBroker.Command.Session
import ChainBroker.Proofs.JsonReading
import ChainBroker.Proofs.Table
import Mathlib.Data.List.Forall2

/-!
# Reading credentials back

What a bind gives back is written as JSON, and the reader beside each part takes for it just what
was written:

1. an endpoint, whose address is left out where it is empty and empty where it is left out;
2. an instance, whose table of endpoints is made anew from its entries;
3. a deployment, and the credentials as a whole.

So nothing is lost in either layout, nor when a session prints the credentials
(`decode_credentials`).
-/

namespace ChainBroker

open Json

theorem Endpoint.reads_toJson (e : Endpoint) : Reads Endpoint.reader e.toJson e := by
  obtain ⟨port, hostIp⟩ := e
  have hport := reads_text port
  by_cases h : hostIp = ""
  · subst h
    have hfills : Fills shape {} [("port", .text port)] ⟨some port, none⟩ :=
      .cons rfl rfl (reads_field hport _) (.nil rfl)
    exact (reads_record hfills).map _
  · have hfills : Fills shape {} [("port", .text port), ("host_ip", .text hostIp)]
        ⟨some port, some hostIp⟩ := by
      refine .cons rfl rfl (reads_field hport _) ?_
      exact .cons rfl rfl (reads_field (reads_text hostIp) _) (.nil rfl)
    unfold toJson
    rw [if_neg h]
    exact (reads_record hfills).map _

namespace Instance

/-- The entries of a table of endpoints, as they are written. -/
theorem forall₂_endpoints (entries : List (String × List Endpoint)) :
    List.Forall₂ (ReadsEntry (listOf Endpoint.reader))
      (entries.map fun (port, endpoints) => (port, .list (endpoints.map Endpoint.toJson)))
      entries := by
  rw [List.forall₂_map_left_iff, List.forall₂_same]
  rintro ⟨port, endpoints⟩ -
  refine ⟨rfl, reads_list ?_⟩
  rw [List.forall₂_map_left_iff, List.forall₂_same]
  exact fun e _ => e.reads_toJson

theorem reads_toJson (i : Instance) : Reads Instance.reader i.toJson i := by
  have hendpoints := reads_table (forall₂_endpoints i.endpoints.toList)
  have hfills : Fills shape {}
      [("internal_address", .text i.internalAddress), ("external_address", .text i.externalAddress),
        ("bindings", .record (i.endpoints.toList.map fun (port, endpoints) =>
          (port, .list (endpoints.map Endpoint.toJson))))]
      ⟨some i.internalAddress, some i.externalAddress, some i.endpoints.toList⟩ := by
    refine .cons rfl rfl (reads_field (reads_text i.internalAddress) _) ?_
    refine .cons rfl rfl (reads_field (reads_text i.externalAddress) _) ?_
    exact .cons rfl rfl (reads_field hendpoints _) (.nil rfl)
  have hreads := (reads_record hfills).map fun d : Draft =>
    { internalAddress := d.internalAddress.getD ""
      externalAddress := d.externalAddress.getD ""
      endpoints := Table.ofList (d.endpoints.getD []) : Instance }
  simp only [Option.getD_some, Table.ofList_toList] at hreads
  exact hreads

end Instance

theorem Deployment.reads_toJson (d : Deployment) : Reads Deployment.reader d.toJson d := by
  have hfills : Fills shape {}
      [("address", .text d.account), ("abi", .text d.interface),
        ("contract_address", .text d.contractAddress), ("gas_price", .text d.gasPrice),
        ("transaction_hash", .text d.transactionHash)]
      ⟨some d.account, some d.interface, some d.contractAddress, some d.gasPrice,
        some d.transactionHash⟩ := by
    refine .cons rfl rfl (reads_field (reads_text d.account) _) ?_
    refine .cons rfl rfl (reads_field (reads_text d.interface) _) ?_
    refine .cons rfl rfl (reads_field (reads_text d.contractAddress) _) ?_
    refine .cons rfl rfl (reads_field (reads_text d.gasPrice) _) ?_
    exact .cons rfl rfl (reads_field (reads_text d.transactionHash) _) (.nil rfl)
  exact (reads_record hfills).map _

theorem Credentials.reads_toJson (c : Credentials) : Reads Credentials.reader c.toJson c := by
  have hfills : Fills shape {}
      [("container_info", c.inst.toJson), ("node_info", c.deployment.toJson)]
      ⟨some c.inst, some c.deployment⟩ := by
    refine .cons rfl rfl (reads_field c.inst.reads_toJson _) ?_
    exact .cons rfl rfl (reads_field c.deployment.reads_toJson _) (.nil rfl)
  exact (reads_record hfills).map _

/-- **Credentials are read back as they are written**, in both layouts and from what a session
prints, and so are all of their parts, whatever they hold. -/
theorem decode_credentials :
    (∀ (c : Credentials) (layout : Layout),
      decode Credentials.reader (Utf8.ofText (c.toJson.render layout)) = .ok c) ∧
    (∀ c : Credentials,
      decode Credentials.reader (Utf8.ofText (Session.printed c.toJson)) = .ok c) ∧
    (∀ (i : Instance) (layout : Layout),
      decode Instance.reader (Utf8.ofText (i.toJson.render layout)) = .ok i) ∧
    (∀ (e : Endpoint) (layout : Layout),
      decode Endpoint.reader (Utf8.ofText (e.toJson.render layout)) = .ok e) ∧
    ∀ (d : Deployment) (layout : Layout),
      decode Deployment.reader (Utf8.ofText (d.toJson.render layout)) = .ok d := by
  refine ⟨fun c => c.reads_toJson.decode, fun c => ?_, fun i => i.reads_toJson.decode,
    fun e => e.reads_toJson.decode, fun d => d.reads_toJson.decode⟩
  exact c.reads_toJson.decode_append .indented "\n" (List.forall_mem_singleton.mpr rfl)

end ChainBroker
