import DashboardFilters.Config.Basic
import DashboardFilters.Config.Expansion
import DashboardFilters.Toml.Decode

namespace DashboardFilters.Config

open Reading (Field Record Source)
open Toml (Decode)

/-- A display as far as it has been read; a display proper and an override have the same fields. -/
structure DisplayDraft where
  timezone : Option Timezone := none
  date : Option String := none
  time : Option String := none
  dateTime : Option String := none

/-- The fields of a display; written by place, an override needs all of them. -/
def displayFields (needed : Bool) : List (Field Decode DisplayDraft) :=
  [.of "timezone" needed DisplayDraft.timezone (fun draft timezone => { draft with timezone })
      Timezone.read,
    .of "date_format" needed DisplayDraft.date (fun draft date => { draft with date })
      Source.text,
    .of "time_format" needed DisplayDraft.time (fun draft time => { draft with time })
      Source.text,
    .of "datetime_format" needed DisplayDraft.dateTime
      (fun draft dateTime => { draft with dateTime }) Source.text]

/-- Reads overrides of the display; no other settings may stand there. -/
def readDisplayOverride : Decode DisplayOverride :=
  Source.record {
    name := "DisplayOverride"
    closed := true
    fields := displayFields true
    start := {}
    finish := fun draft =>
      .ok ⟨draft.timezone, draft.date, draft.time, draft.dateTime⟩ }

/-- Reads settings of the display; what is missing is as usual. -/
def readDisplay : Decode Display :=
  Source.record {
    name := "DisplayConfig"
    closed := true
    fields := displayFields false
    start := {}
    finish := fun draft => .ok (DisplayOverride.apply
      ⟨draft.timezone, draft.date, draft.time, draft.dateTime⟩ {}) }

def readSession : Decode Session :=
  Source.record {
    name := "SessionConfig"
    closed := true
    fields := [
      .of "namespace" true Session.scope (fun _ scope => ⟨scope⟩) Source.text]
    start := {}
    finish := .ok }

def readOverride : Decode Override :=
  Source.record {
    name := "EnvironmentOverride"
    closed := true
    fields := [
      .of "display" true Override.display (fun draft display => { draft with display })
        readDisplayOverride,
      .of "session" true Override.session (fun draft session => { draft with session })
        readSession]
    start := {}
    finish := .ok }

/-- A configuration as far as it has been read. -/
structure Draft where
  display : Option Display := none
  session : Option Session := none
  environments : Option (List (String × Override)) := none

/-- Reads a whole configuration; no other sections may stand there. -/
def read : Decode Config :=
  Source.record {
    name := "FilterConfig"
    closed := true
    fields := [
      .of "display" false Draft.display (fun draft display => { draft with display })
        readDisplay,
      .of "session" false Draft.session (fun draft session => { draft with session })
        readSession,
      .of "environments" false Draft.environments
        (fun draft environments => { draft with environments }) (Decode.entries readOverride)]
    start := {}
    finish := fun draft =>
      .ok ⟨draft.display.getD {}, draft.session.getD {}, draft.environments.getD []⟩ }

/-- The valid configuration that a text stands for in an environment of variables. -/
def ofText (variableOf : String → Option String) (content : String) :
    Except LoadError Config := do
  match Toml.parse? (expand variableOf content) with
  | none => throw .malformedToml
  | some document =>
      match read document with
      | .error _ => throw .malformedToml
      | .ok config =>
          config.validate
          return config

def load (variableOf files : String → Option String) (path : String) :
    Except LoadError Config :=
  match files path with
  | some content => ofText variableOf content
  | none => .error (.unreadable path)

end DashboardFilters.Config
