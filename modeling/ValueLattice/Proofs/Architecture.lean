/-
The register tables: on every machine the name found for a register number leads back to that
number, although some machines know a register by further names.
-/
import ValueLattice.Architecture

namespace ValueLattice

namespace Machine

/-- In each table a name stands in one row only, and no alias comes before it. -/
theorem registerIndex_of_mem_names (m : Machine) :
    ∀ row ∈ m.names, m.registerIndex row.2 = some row.1 := by
  cases m <;> decide +kernel

theorem registerName_mem_names {m : Machine} {index : UInt32} {name : String}
    (h : m.registerName index = some name) : (index, name) ∈ m.names := by
  unfold registerName at h
  obtain ⟨row, hrow, rfl⟩ := Option.map_eq_some_iff.1 h
  have hindex : row.1 = index := by simpa using List.find?_some hrow
  subst hindex
  exact List.mem_of_find?_eq_some hrow

theorem architecture_inverts (m : Machine) : m.architecture.Inverts := by
  intro index name h
  exact registerIndex_of_mem_names m (index, name) (registerName_mem_names h)

theorem inverts_of_mem (m : Machine) : ∀ a ∈ some m.architecture, a.Inverts := by
  rintro a ⟨⟩
  exact architecture_inverts m

end Machine

end ValueLattice
