import ClawForge.Json
import ClawForge.EventStream
import ClawForge.LiveFeed
import ClawForge.Views
import ClawForge.RunDetail
import ClawForge.RunState
import ClawForge.Dashboard
import ClawForge.Steps
import ClawForge.Polling
import ClawForge.History
import ClawForge.Controls
import ClawForge.Robustness
import ClawForge.Requests
import ClawForge.Responses
