/-!
# The bootstrap templates

The two halves of the bridge that run inside a page.  The page half offers the transport to page
script, the bridge half holds the invoke key and posts to the native handler; they talk to each
other through document events.
-/

namespace PageBridge.Script

/-- The path of the page half. -/
def pageBootstrapPath : String := ":/webview-bridge/js/bootstrap_page.js"

/-- The path of the bridge half. -/
def bridgeBootstrapPath : String := ":/webview-bridge/js/bootstrap_bridge.js"

/-- The template of the page half. -/
def pageTemplate : String := "// Page-world half of the webview bridge.
// Exposes window[ns].webChannelTransport for the channel library and talks to
// the bridge-world half through DOM events, which both worlds share.
(function (ns) \x7b
  'use strict';

  var root = window[ns] = window[ns] || \x7b\x7d;
  if (root.webChannelTransport) \x7b
    return;
  \x7d

  var onmessage = null;
  var pending = [];
  var observer = null;

  function bridgeReady() \x7b
    return document.documentElement &&
      document.documentElement.getAttribute('data-wvb-bridge-ready') === '1';
  \x7d

  function dispatch(msg) \x7b
    document.dispatchEvent(new CustomEvent('__wvb_req__', \x7b detail: String(msg) \x7d));
  \x7d

  function flush() \x7b
    while (pending.length > 0) \x7b
      dispatch(pending.shift());
    \x7d
  \x7d

  function waitForBridge() \x7b
    if (observer || !document.documentElement) \x7b
      return;
    \x7d
    observer = new MutationObserver(function () \x7b
      if (bridgeReady()) \x7b
        observer.disconnect();
        observer = null;
        flush();
      \x7d
    \x7d);
    observer.observe(document.documentElement, \x7b
      attributes: true,
      attributeFilter: ['data-wvb-bridge-ready']
    \x7d);
  \x7d

  root.webChannelTransport = \x7b
    send: function (msg) \x7b
      if (bridgeReady()) \x7b
        flush();
        dispatch(msg);
      \x7d else \x7b
        pending.push(msg);
        waitForBridge();
      \x7d
    \x7d,
    set onmessage(fn) \x7b
      onmessage = fn;
    \x7d,
    get onmessage() \x7b
      return onmessage;
    \x7d
  \x7d;

  // Detail is a JSON string so it survives the hop between worlds
  document.addEventListener('__wvb_push__', function (e) \x7b
    var packet;
    try \x7b
      packet = JSON.parse(e.detail);
    \x7d catch (err) \x7b
      return;
    \x7d
    if (!packet || packet.ns !== ns) \x7b
      return;
    \x7d
    if (typeof onmessage === 'function') \x7b
      onmessage(\x7b data: packet.data \x7d);
    \x7d
  \x7d);

  window.dispatchEvent(new Event('webChannelReady'));
\x7d)('%NS%');
"

/-- The template of the bridge half. -/
def bridgeTemplate : String := "// Bridge-world half of the webview bridge. Runs in the isolated world when
// the engine supports one, otherwise in the page world.
// Holds the invoke key; page script in an isolated setup never sees it.
(function (ns, invokeKey) \x7b
  'use strict';

  var handler = typeof webkit !== 'undefined' &&
    webkit.messageHandlers &&
    webkit.messageHandlers.webviewBridge;

  function push(data) \x7b
    document.dispatchEvent(new CustomEvent('__wvb_push__', \x7b
      detail: JSON.stringify(\x7b ns: ns, data: String(data) \x7d)
    \x7d));
  \x7d

  // Native → page, direct call (isolated world)
  var deliverers = window.__wvbDeliverers = window.__wvbDeliverers || \x7b\x7d;
  deliverers[ns] = function (key, data) \x7b
    if (key === invokeKey) \x7b
      push(data);
    \x7d
  \x7d;
  window.__wvbDeliver = function (targetNs, key, data) \x7b
    var deliver = window.__wvbDeliverers[targetNs];
    if (deliver) \x7b
      deliver(key, data);
    \x7d
  \x7d;

  // Native → page, DOM event (shared world)
  document.addEventListener('__wvb_deliver__', function (e) \x7b
    var d = e.detail;
    if (d && d.ns === ns && d.invokeKey === invokeKey) \x7b
      push(d.data);
    \x7d
  \x7d);

  // Page → native
  document.addEventListener('__wvb_req__', function (e) \x7b
    if (!handler) \x7b
      console.error('[webview-bridge] native message handler unavailable');
      return;
    \x7d
    handler.postMessage(JSON.stringify(\x7b
      invokeKey: invokeKey,
      ns: ns,
      data: String(e.detail)
    \x7d));
  \x7d);

  function markReady() \x7b
    document.documentElement.setAttribute('data-wvb-bridge-ready', '1');
  \x7d
  if (document.documentElement) \x7b
    markReady();
  \x7d else \x7b
    document.addEventListener('DOMContentLoaded', markReady, \x7b once: true \x7d);
  \x7d
\x7d)('%NS%', '%INVOKE_KEY%');
"

end PageBridge.Script
