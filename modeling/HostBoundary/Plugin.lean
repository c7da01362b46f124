-- SUMMARY: Plugins of the engine: factories, instances, and their wire form.
import HostBoundary.ItemOrList
import HostBoundary.Payload.Crossing

/-!
# Plugins

The engine knows its plugins by name. A factory pairs a name with a way to turn constructor arguments
into options. On the wire the options are bytes.
-/

namespace HostBoundary

/-- A plugin as the host sees it. -/
structure Plugin where
  name : String
  options : Option Payload := none

/-- A plugin as it crosses the boundary. -/
structure WirePlugin where
  name : String
  options : Option Bytes := none
  deriving DecidableEq, Repr

/-- Makes plugins of one name from constructor arguments. -/
structure PluginFactory (α : Type) where
  name : String
  resolve : α → Option Payload

namespace PluginFactory

/-- A factory of plugins that take no options. -/
def plain (name : String) : PluginFactory Unit where
  name := name
  resolve _ := none

/-- The plugin that keeps the engine from writing anything out after errors. -/
def noEmitOnErrors : PluginFactory Unit := plain "NoEmitOnErrorsPlugin"

/-- Makes a plugin and reports it. -/
def construct {α : Type} (factory : PluginFactory α) (args : α) : Traced Plugin := do
  let options := factory.resolve args
  Traced.report
    { level := .trace
      target := "packhost_bridge::plugin"
      message := "constructed builtin plugin"
      details := [("plugin", .plain factory.name), ("has_options", .flag options.isSome)] }
  return { name := factory.name, options }

end PluginFactory

namespace Plugin

/-- The wire form of a plugin. -/
def toWire (plugin : Plugin) : Crossing WirePlugin := do
  return { name := plugin.name, options := ← Payload.toWire plugin.options }

/-- The wire forms of one plugin or a list of them, in order. The first failure ends it. -/
def allToWire (plugins : ItemOrList Plugin) : Crossing (List WirePlugin) :=
  plugins.toList.mapM toWire

/-- Equality of plugins, whatever the order of the fields of their options. -/
def same (a b : Plugin) : Bool :=
  a.name == b.name &&
    match a.options, b.options with
    | none, none => true
    | some p, some q => p.same q
    | _, _ => false

end Plugin

end HostBoundary
