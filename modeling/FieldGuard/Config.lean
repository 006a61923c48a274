import FieldGuard.Permission
import FieldGuard.Record
import FieldGuard.Shape

/-!
# The configuration of a collection

A configuration gives a collection its name, perhaps a shape, and the permissions of new records:
a default triple for every path, and overrides for some. `Config.twin` builds the
permissions of a new record.
-/

namespace FieldGuard

/-- The settings of a store. -/
structure StoreConfig where
  /-- The identifier that stands for the superadmin. -/
  superadminId : String := "superadmin"
deriving DecidableEq

/-- The settings of a collection. -/
structure Config where
  name : String
  /-- The shape of its records; any record without one. -/
  shape : Option Shape := none
  /-- Whether containers get a triple of their own. -/
  containerPermissions : Bool := false
  /-- The triple of every path of a new record. -/
  defaultPermissions : Triple := {}
  /-- Triples for some paths, in place of the default. -/
  overrides : SortedDict Triple := .empty

namespace Config

/-- The paths of a new record with the given flat paths: those of the shape if there is one,
with or without containers. -/
def contentPaths (config : Config) (recordPaths : List String) : List String :=
  match config.shape with
  | some shape => shape.fieldPaths config.containerPermissions
  | none =>
    if config.containerPermissions then
      recordPaths.flatMap fun path => Path.ancestors path ++ [path]
    else recordPaths

/-- Applies an override if the twin holds its path or a path below it. -/
def applyOverride (twin : Twin) (entry : String × Triple) : Twin :=
  if twin.fields.keys.any fun known => Path.isWithin known entry.1 then
    twin.set entry.1 entry.2
  else twin

/-- The permissions of a new record: the default triple for the store's own fields and the paths
of the content, then the overrides of the configuration, then those of the call. -/
def twin (config : Config) (id : String) (recordPaths : List String)
    (overrides : SortedDict Triple) : Twin :=
  let base := (Record.systemFields ++ config.contentPaths recordPaths).foldl
    (fun twin path => twin.set path config.defaultPermissions) (Twin.empty id)
  (config.overrides.entries ++ overrides.entries).foldl applyOverride base

end Config

end FieldGuard
