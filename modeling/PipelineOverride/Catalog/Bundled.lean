import PipelineOverride.Catalog.Basic

/-!
# The bundled catalog

The three tasks that the program ships: waiting for a time, launching a program, and calling a
web address. Each runs a custom action of the host application, whose parameters its options fill
in.
-/

set_option autoImplicit false

namespace PipelineOverride.Bundled

/-- A built-in task that runs a custom action with the given options. -/
def customTask (name entry label : String) (options : List String) : Task where
  name := name
  options := options.map Document.text
  override := some (.object [(entry, .object [
    ("action", .text "Custom"), ("custom_action", .text (entry ++ "_ACTION"))])])
  entry := .text entry
  label := .text label
  description := noText
  defaultCheck := false
  resource := []
  controller := []

/-- An override of the parameters of the action of an entry. -/
def parameters (entry : String) (fields : List (String × Document)) : Document :=
  .object [(entry, .object [("custom_action_param", .object fields)])]

/-- A text slot without a pattern, whose default is empty. -/
def textSlot (name label inputType : String) : Slot where
  name := name
  default := ""
  type := .string
  verify := none
  patternMessage := noText
  label := .text label
  description := noText
  inputType := .text inputType

/-- A case of the switch that decides whether to wait for a launched program. -/
def waitCase (name label : String) (wait : Bool) : Case where
  name := name
  label := .text label
  description := noText
  options := []
  override := some (parameters "TASKDECK_LAUNCH" [("wait_for_exit", .bool wait)])

/-- The time to wait, in whole seconds from one on. -/
def sleepSlot : Slot where
  name := "sleep_time"
  default := "5"
  type := .int
  verify := some (.text "^[1-9]\\d*$")
  patternMessage := .text "builtin.sleep.inputError"
  label := .text "builtin.sleep.inputLabel"
  description := noText
  inputType := .text "text"

def options : Registry := [
  (.text "__TASKDECK_SLEEP_OPTION__", .input {
    slots := [sleepSlot]
    override := some (parameters "TASKDECK_SLEEP" [("sleep_time", .text sleepSlot.placeholder)])
    label := .text "builtin.sleep.optionLabel"
    description := noText }),
  (.text "__TASKDECK_LAUNCH_OPTION__", .input {
    slots := [textSlot "program" "builtin.launch.programLabel" "file",
      textSlot "args" "builtin.launch.argsLabel" "text"]
    override := some (parameters "TASKDECK_LAUNCH" [
      ("program", .text "\x7bprogram\x7d"), ("args", .text "\x7bargs\x7d")])
    label := .text "builtin.launch.optionLabel"
    description := noText }),
  (.text "__TASKDECK_LAUNCH_WAIT_OPTION__", .switch {
    cases := [waitCase "Yes" "builtin.launch.waitYes" true,
      waitCase "No" "builtin.launch.waitNo" false]
    defaultCase := some (.text "No")
    label := .text "builtin.launch.waitLabel"
    description := .text "builtin.launch.waitDescription" }),
  (.text "__TASKDECK_WEBHOOK_OPTION__", .input {
    slots := [textSlot "url" "builtin.webhook.urlLabel" "text"]
    override := some (parameters "TASKDECK_WEBHOOK" [("url", .text "\x7burl\x7d")])
    label := .text "builtin.webhook.optionLabel"
    description := noText })]

/-- The bundled tasks and options as a project. -/
def project : Project where
  name := .text "taskdeck-builtin"
  version := "1"
  tasks := [
    customTask "__TASKDECK_SLEEP__" "TASKDECK_SLEEP" "builtin.sleep.label"
      ["__TASKDECK_SLEEP_OPTION__"],
    customTask "__TASKDECK_LAUNCH__" "TASKDECK_LAUNCH" "builtin.launch.label"
      ["__TASKDECK_LAUNCH_OPTION__", "__TASKDECK_LAUNCH_WAIT_OPTION__"],
    customTask "__TASKDECK_WEBHOOK__" "TASKDECK_WEBHOOK" "builtin.webhook.label"
      ["__TASKDECK_WEBHOOK_OPTION__"]]
  options := options

def catalog : Catalog :=
  Catalog.ofProject project

/-- The name of the file of the catalog within the program. -/
def catalogPath : String := "<pkg>/config/builtin_tasks.yaml"

/-- What is told when the bundled catalog is loaded. -/
def catalogNotices : List Notice :=
  [project.readNotice, catalog.loadedNotice catalogPath]

end PipelineOverride.Bundled
