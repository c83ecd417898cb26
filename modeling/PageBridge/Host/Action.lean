import PageBridge.Host.Pump
import PageBridge.Json.Parse
import PageBridge.Unicode.LowerCase

/-!
# Actions on hosts

What a program does with a host and its views.  Every action answers with a reply or an error and
gives the host after it; most actions on a view only queue a command.
-/

namespace PageBridge.Host

open PageBridge.Text

/-- What can be done with a view. -/
inductive ViewAction where
  | install (nspace : Option String) (origins : List String) (key : String)
      (channelPath : Option String)
  | post (json : String)
  | send (text : String)
  | run (script : String)
  | updateOrigins (origins : List String)
  | setScripts (entries : List Json.Value)
  | removeScripts
  | getNspace
  | setNspace (nspace : String)
  | loadUrl (url : String)
  | loadHtml (html : String) (baseUrl : Option String)
  | reload
  | place (area : Area)
  | setVisible (visible : Bool)
  | close
  | listen (kind : Notice.Kind) (callback : Callback)
  | drop

/-- What can be done with a host. -/
inductive Action where
  | start
  | pump
  | create (options : Options)
  | onView (id : ViewId) (action : ViewAction)

/-- What an action answers. -/
inductive Reply where
  | done
  | created (id : ViewId)
  | installed (ok : Bool)
  | nspace (nspace : String)
  | pumped (activity : Activity)
deriving DecidableEq, Repr

/-- The result of an action and the host after it. -/
abbrev Answer := Except Error Reply × Host

/-! ## Hosts -/

/-- Makes a host ready, which takes an engine that this machine does not have. -/
def start (h : Host) : Answer :=
  if h.ready then (.ok .done, h) else (.error .unsupportedPlatform, h)

/-- Changes the configuration of a view. -/
def configure (h : Host) (id : ViewId) (config : Config) : Host :=
  { h with configs := h.configs.set id config }

/-- Gives out the next number, for a view that has no callbacks yet. -/
def allocate (h : Host) : Except Error ViewId × Host :=
  if maxId ≤ h.nextId then (.error .idsExhausted, h)
  else
    (.ok h.nextId, { h with nextId := h.nextId + 1, callbacks := h.callbacks.set h.nextId [] })

/-- Creates a view. -/
def create (h : Host) (options : Options) : Answer :=
  if !h.ready then (.error .notReady, h)
  else
    match h.allocate with
    | (.error e, h) => (.error e, h)
    | (.ok id, h) =>
      (.ok (.created id), (h.configure id (.ofOptions options)).push id (.create options))

/-! ## Views -/

/-- Queues a command and has nothing to answer. -/
def queue (h : Host) (id : ViewId) (command : Command) : Answer :=
  (.ok .done, h.push id command)

/-- The request for a bridge.  An empty namespace stands for that of the configuration. -/
def Config.request (config : Config) (nspace : Option String) (origins : List String)
    (key : String) (channelPath : Option String) : Installation.Request where
  nspace := (nspace.filter (!·.isEmpty)).getD config.nspace
  allowedOrigins := origins
  invokeKey := key
  channelPath := channelPath
  userScripts := config.userScripts

/-- The plan of a request, if it has one. -/
def plan? (files : File.Disk) (config : Config) (request : Installation.Request) :
    Option Installation.Plan :=
  (Installation.Plan.resolve (config.store.load files) request).toOption

/-- Queues the installation of a bridge, or its end if the request fails. -/
def install (files : File.Disk) (h : Host) (id : ViewId) (nspace : Option String)
    (origins : List String) (key : String) (channelPath : Option String) : Answer :=
  match h.config id with
  | .error e => (.error e, h)
  | .ok config =>
    let plan := plan? files config (config.request nspace origins key channelPath)
    (.ok (.installed plan.isSome), h.push id (.install plan))

/-- Queues a message to the channel of the page. -/
def send (h : Host) (id : ViewId) (text : String) : Answer :=
  match Json.parse text with
  | .ok message => h.queue id (.send message)
  | .error fault => (.error (.badMessage (fault.message text.toList)), h)

/-- Takes new user scripts, for this bridge and for later ones. -/
def setScripts (files : File.Disk) (h : Host) (id : ViewId) (entries : List Json.Value) :
    Answer :=
  match h.config id with
  | .error e => (.error e, h)
  | .ok config =>
    let config := { config with userScripts := Script.Descriptor.ofEntries entries }
    let loaded := Script.loadAll (config.store.load files) config.userScripts
    (h.configure id config).queue id (.setScripts loaded)

/-- The namespace of requests that give none. -/
def getNspace (h : Host) (id : ViewId) : Answer :=
  ((h.config id).map fun config => .nspace config.nspace, h)

/-- Takes a new namespace for requests that give none. -/
def setNspace (h : Host) (id : ViewId) (nspace : String) : Answer :=
  match h.config id with
  | .error e => (.error e, h)
  | .ok config => (.ok .done, h.configure id { config with nspace })

/-- The starts of the addresses that may be loaded. -/
def loadableStarts : List String := ["http://", "https://", "file://"]

/-- Whether an address may be loaded: whether it has one of these starts in lower case. -/
def isLoadable (url : String) : Bool :=
  let lowered := (Unicode.lower url).toList
  loadableStarts.any fun start => start.toList.isPrefixOf lowered

/-- Queues the loading of an address. -/
def loadUrl (h : Host) (id : ViewId) (url : String) : Answer :=
  if isLoadable (trim url) then h.queue id (.loadUrl (trim url)) else (.error .blockedUrl, h)

/-- Registers a callback with a view that is known. -/
def listen (h : Host) (id : ViewId) (kind : Notice.Kind) (callback : Callback) : Answer :=
  (.ok .done, { h with callbacks := h.callbacks.update id (·.set kind callback) })

/-! ## What can be seen -/

/-- The bridges that a platform keeps, by the numbers of their views. -/
abbrev Bridges := ViewId → Option Bridge

/-- The platform of this host keeps no bridge for any view. -/
def noBridges : Bridges := fun _ => none

/-- What can be seen of a view on a platform that keeps some bridges.  Without a platform there is
nothing to see. -/
def viewStateWith (bridges : Bridges) (h : Host) (id : ViewId) : ViewState :=
  if h.hasPlatform then (bridges id).elim .bare .ofBridge else .bare

/-- What can be seen of a view. -/
def viewState (h : Host) (id : ViewId) : ViewState := h.viewStateWith noBridges id

/-! ## Actions -/

/-- Acts on a view. -/
def performOn (files : File.Disk) (h : Host) (id : ViewId) : ViewAction → Answer
  | .install nspace origins key channelPath => h.install files id nspace origins key channelPath
  | .post json => h.queue id (.post json)
  | .send text => h.send id text
  | .run script => h.queue id (.run script)
  | .updateOrigins origins => h.queue id (.updateOrigins origins)
  | .setScripts entries => h.setScripts files id entries
  | .removeScripts => h.queue id .removeScripts
  | .getNspace => h.getNspace id
  | .setNspace nspace => h.setNspace id nspace
  | .loadUrl url => h.loadUrl id url
  | .loadHtml html baseUrl => h.queue id (.loadHtml html baseUrl)
  | .reload => h.queue id .reload
  | .place area => h.queue id (.place area)
  | .setVisible visible => h.queue id (.setVisible visible)
  | .close => h.queue id .close
  | .listen kind callback => h.listen id kind callback
  | .drop => h.queue id .close

/-- Acts on a host. -/
def perform (files : File.Disk) (h : Host) : Action → Answer
  | .start => h.start
  | .pump =>
    let (result, h) := h.pump
    (result.map .pumped, h)
  | .create options => h.create options
  | .onView id action => h.performOn files id action

end PageBridge.Host
