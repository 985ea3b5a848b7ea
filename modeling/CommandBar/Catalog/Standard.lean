/-
The standard catalog.

Eleven types of widget.  Only the video player has a key setting: the search that
it opens with.
-/
import CommandBar.Catalog.Blueprint

namespace CommandBar

namespace Catalog

/-- The search of the video player, with the phrases that ask for one. -/
def videoSearch : KeySetting where
  name := "defaultSearchQuery"
  intentPhrases := [
    "[search|look] [youtube|] for $query [on youtube|]",
    "youtube [search|look] for $query",
    "find [me|] [videos|a video|clips] [of|about|on|by] $query",
    "show me [videos|a video|clips] [of|about|on|by] $query",
    "[play|show me|find] $query on youtube"]
  correct := {
    spoken := "Show me music videos by Virtual Mage on YouTube"
    command := .obj [
      ("action", .str "openOrFocusWidget"), ("widgetType", .str "youtube"),
      ("initialSettings", .obj [("defaultSearchQuery", .str "music videos by Virtual Mage")]),
      ("feedbackToUser", .str "Searching YouTube for music videos by Virtual Mage...")] }
  incorrect := {
    spoken := "Show me music videos by Virtual Mage on YouTube"
    command := .obj [
      ("action", .str "openOrFocusWidget"), ("widgetType", .str "youtube"),
      ("feedbackToUser", .str "Opening YouTube...")] }

/-- The types of widget that the dashboard comes with. -/
def standard : Catalog := [
  { type := "weather"
    displayName := "Weather"
    defaultTitle := "New Weather"
    description := "Live weather updates and forecasts."
    settings := [
      ("location", {
        default := .str "97504 US"
        description := "e.g. \"London, UK\" or \"42.32,-122.87\"" }),
      ("units", {
        default := .str "imperial"
        description := "units for temperature and speed"
        choices := ["imperial", "metric"] }),
      ("useCurrentLocation", {
        default := .bool true
        description := "if true, ignores location and uses the device position" })] },
  { type := "clock"
    displayName := "Clock"
    defaultTitle := "New Clock"
    description := "Analog or digital clock."
    settings := [
      ("displayType", {
        default := .str "digital"
        description := "visual style"
        choices := ["analog", "digital"] }),
      ("showSeconds", {
        default := .bool true
        description := "show or hide seconds" }),
      ("hourFormat", {
        default := .str "12"
        description := "digital display format"
        choices := ["12", "24"] })] },
  { type := "calculator"
    displayName := "Calculator"
    defaultTitle := "New Calculator"
    description := "Perform quick calculations." },
  { type := "todo"
    displayName := "To-Do List"
    defaultTitle := "Global To-Do List"
    description := "Organize your tasks."
    settings := [
      ("showCompleted", {
        default := .bool true
        description := "show or hide completed tasks" }),
      ("sortBy", {
        default := .str "createdAt_desc"
        description := "task sort order"
        choices := ["createdAt_asc", "createdAt_desc", "alphabetical_asc",
          "alphabetical_desc"] }),
      ("defaultFilter", {
        default := .str "all"
        description := "which tasks are shown"
        choices := ["all", "active", "completed"] })] },
  { type := "notes"
    displayName := "Notes"
    defaultTitle := "New Note Pad"
    description := "Jot down quick notes and ideas."
    settings := [
      ("fontSize", {
        default := .str "base"
        description := "editor font size"
        choices := ["sm", "base", "lg"] })] },
  { type := "youtube"
    displayName := "YouTube"
    defaultTitle := "YouTube Player"
    description := "Search and watch YouTube videos."
    settings := [
      ("defaultSearchQuery", {
        default := .str ""
        description := "search to run when the widget loads, e.g. \"Tech Reviews\"" }),
      ("maxResults", {
        default := .int 10
        description := "number of search results, 1-25" }),
      ("showResultsPanel", {
        default := .bool true
        description := "show the results panel by default" })]
    keySetting := some videoSearch },
  { type := "minesweeper"
    displayName := "Minesweeper"
    defaultTitle := "Minesweeper"
    description := "Classic Minesweeper game."
    settings := [
      ("difficulty", {
        default := .str "easy"
        description := "game difficulty"
        choices := ["easy", "medium", "hard"] })] },
  { type := "unitConverter"
    displayName := "Unit Converter"
    defaultTitle := "Unit Converter"
    description := "Convert various units."
    settings := [
      ("defaultCategory", {
        default := .str "Length"
        description := "unit category shown first"
        choices := ["Length", "Weight/Mass", "Temperature", "Volume", "Speed"] }),
      ("precision", {
        default := .int 4
        description := "decimal places in results, 0-10" })] },
  { type := "countdownStopwatch"
    displayName := "Timer/Stopwatch"
    defaultTitle := "Timer / Stopwatch"
    description := "Countdown timer and stopwatch."
    settings := [
      ("defaultCountdownMinutes", {
        default := .int 5
        description := "minutes for new countdowns, 1-360" }),
      ("playSoundOnFinish", {
        default := .bool true
        description := "play a sound when a countdown ends" })] },
  { type := "photo"
    displayName := "Photo Viewer"
    defaultTitle := "Photo Viewer"
    description := "Display an image from a URL."
    settings := [
      ("imageUrl", {
        default := .null
        description := "URL of the image, or null to clear" }),
      ("objectFit", {
        default := .str "contain"
        description := "how the image fits its frame"
        choices := ["contain", "cover", "fill", "scale-down", "none"] })] },
  { type := "geminiChat"
    displayName := "AI Chat"
    defaultTitle := "AI Chat"
    description := "Chat with an AI assistant."
    settings := [
      ("customSystemPrompt", {
        default := .str ""
        description := "custom instructions for the chat" })] }]

end Catalog

end CommandBar
