import WireShape.Registry.Basic

/-! # Built-in declarations

The collections, maps and streams of the standard library. -/

namespace WireShape.Registry

def collectionDeclaration (kind : DeclarationKind) : Declaration where
  kind
  parameters := [⟨"E", none⟩]
  container := some (.collection (.raw ⟨"E"⟩))

def mapDeclaration (kind : DeclarationKind) : Declaration where
  kind
  parameters := [⟨"K", none⟩, ⟨"V", none⟩]
  container := some (.map (.raw ⟨"K"⟩) (.raw ⟨"V"⟩))

def streamDeclaration : Declaration where
  kind := .interfaceType
  parameters := [⟨"T", none⟩]
  container := some (.stream (.raw ⟨"T"⟩))

def collectionInterfaces : List String := [
  "java.lang.Iterable", "java.util.Collection", "java.util.List", "java.util.Set",
  "java.util.SortedSet", "java.util.Queue", "java.util.Deque"]

def collectionClasses : List String := [
  "java.util.ArrayList", "java.util.LinkedList", "java.util.HashSet", "java.util.LinkedHashSet",
  "java.util.TreeSet"]

def mapInterfaces : List String := ["java.util.Map", "java.util.SortedMap"]

def mapClasses : List String := [
  "java.util.HashMap", "java.util.LinkedHashMap", "java.util.TreeMap",
  "java.util.concurrent.ConcurrentHashMap"]

def builtinDeclarations : List (String × Declaration) :=
  collectionInterfaces.map (·, collectionDeclaration .interfaceType) ++
  collectionClasses.map (·, collectionDeclaration .classType) ++
  mapInterfaces.map (·, mapDeclaration .interfaceType) ++
  mapClasses.map (·, mapDeclaration .classType) ++
  [("java.util.stream.Stream", streamDeclaration)]

def builtins : Registry where
  declarations := .ofList builtinDeclarations

theorem nodup_builtinDeclarations : (builtinDeclarations.map (·.1)).Nodup := by decide +kernel

theorem get?_builtins_iff {name : TypeName} {d : Declaration} :
    builtins.get? name = some d ↔ (name.text, d) ∈ builtinDeclarations :=
  NameTable.get?_ofList_eq_some_iff nodup_builtinDeclarations

theorem cases_of_get?_builtins {name : TypeName} {d : Declaration}
    (h : builtins.get? name = some d) :
    (∃ kind, d = collectionDeclaration kind ∧
        name.text ∈ collectionInterfaces ++ collectionClasses) ∨
      (∃ kind, d = mapDeclaration kind ∧ name.text ∈ mapInterfaces ++ mapClasses) ∨
      d = streamDeclaration ∧ name.text = "java.util.stream.Stream" := by
  have hmem := get?_builtins_iff.mp h
  simp only [builtinDeclarations, List.mem_append, List.mem_map, List.mem_singleton,
    Prod.mk.injEq] at hmem
  rcases hmem with (((⟨n, hn, hname, rfl⟩ | ⟨n, hn, hname, rfl⟩) | ⟨n, hn, hname, rfl⟩) |
    ⟨n, hn, hname, rfl⟩) | ⟨hname, rfl⟩
  · exact .inl ⟨_, rfl, List.mem_append_left _ (hname ▸ hn)⟩
  · exact .inl ⟨_, rfl, List.mem_append_right _ (hname ▸ hn)⟩
  · exact .inr (.inl ⟨_, rfl, List.mem_append_left _ (hname ▸ hn)⟩)
  · exact .inr (.inl ⟨_, rfl, List.mem_append_right _ (hname ▸ hn)⟩)
  · exact .inr (.inr ⟨rfl, hname⟩)

end WireShape.Registry
