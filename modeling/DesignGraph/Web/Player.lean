/-!
# The player

The script that runs an exported design in a browser. It is embedded in the document as it is,
and needs nothing but the data of the design.

## Main definitions

* `DesignGraph.Web.player` — the text of the script.
-/

namespace DesignGraph.Web

/-- The lines of the script. -/
def playerLines : List String :=
  [
    "/*",
    " * stylegraph runtime for exported documents.",
    " *",
    " * Mirrors stylegraph.evaluator, stylegraph.actions, stylegraph.composition",
    " * and stylegraph.runtime.loop rule for rule. Any change here needs the same",
    " * change on the Python side (tests/test_runtime_asset.py checks the node",
    " * catalog and style keys of both, tests/test_runtime_parity.py runs a",
    " * shared table of graphs through both evaluators).",
    " */",
    "function createRuntime(PROJECT_DATA) \x7b",
    "  'use strict';",
    "",
    "  var LOOPING_ANIMATIONS = ['spin', 'pulse', 'shake', 'bounce'];",
    "  var ACTION_KINDS = ['NAVIGATE', 'LINK', 'ALERT'];",
    "  var TEXT_ELEMENT_TYPES = ['BUTTON', 'HEADING', 'PARAGRAPH', 'BADGE', 'CUSTOM'];",
    "  var SIMPLE_STYLE_KEYS = ['backgroundColor', 'color', 'fontSize', 'transform', 'opacity', 'transition'];",
    "",
    "  function num(v) \x7b return v == null ? 0 : Number(v); \x7d",
    "  function numberOr(v, d) \x7b return Number(v || d); \x7d",
    "  function isObj(v) \x7b return v !== null && typeof v === 'object' && !Array.isArray(v); \x7d",
    "  function has(obj, key) \x7b return !!obj && Object.prototype.hasOwnProperty.call(obj, key); \x7d",
    "  function findById(list, id) \x7b",
    "    if (id == null) return undefined;",
    "    return (list || []).find(function(item) \x7b return item.id === id; \x7d);",
    "  \x7d",
    "",
    "  var RUNTIME = \x7b",
    "    startTime: Date.now(),",
    "    activePageId: PROJECT_DATA.pages[0] ? PROJECT_DATA.pages[0].id : undefined,",
    "    state: \x7b hovers: \x7b\x7d, clicks: \x7b\x7d, time: 0, triggerStates: \x7b\x7d \x7d,",
    "    animationStates: \x7b\x7d,",
    "    pendingAlerts: [],",
    "    pendingPage: null,",
    "",
    "    init: function() \x7b",
    "      var self = this;",
    "      document.querySelectorAll('[data-el-id]').forEach(function(el) \x7b",
    "        var id = el.getAttribute('data-el-id');",
    "        el.addEventListener('mouseenter', function() \x7b self.state.hovers[id] = true; \x7d);",
    "        el.addEventListener('mouseleave', function() \x7b self.state.hovers[id] = false; \x7d);",
    "        el.addEventListener('click', function(e) \x7b",
    "          if (e.target !== el && ['A', 'INPUT'].includes(e.target.tagName)) return;",
    "          e.stopPropagation();",
    "          self.state.clicks[id] = !self.state.clicks[id];",
    "        \x7d);",
    "        var inlineAnim = el.style.animation;",
    "        if (inlineAnim && inlineAnim !== 'none' && inlineAnim.trim() !== '') \x7b",
    "          self.animationStates[id] = inlineAnim;",
    "        \x7d",
    "      \x7d);",
    "      this.loop();",
    "    \x7d,",
    "",
    "    triggersFor: function(elementId) \x7b",
    "      if (!this.state.triggerStates[elementId]) this.state.triggerStates[elementId] = \x7b\x7d;",
    "      return this.state.triggerStates[elementId];",
    "    \x7d,",
    "",
    "    forget: function(elementId) \x7b",
    "      this.state.clicks[elementId] = false;",
    "      this.state.hovers[elementId] = false;",
    "      delete this.state.triggerStates[elementId];",
    "      delete this.animationStates[elementId];",
    "    \x7d,",
    "",
    "    navigateTo: function(pageId) \x7b",
    "      var self = this;",
    "      var previous = this.activePageId;",
    "      if (previous === pageId) return;",
    "",
    "      PROJECT_DATA.elements.forEach(function(el) \x7b",
    "        if (el.pageId === previous) self.forget(el.id);",
    "      \x7d);",
    "",
    "      var prevEl = document.getElementById('page-' + previous);",
    "      if (prevEl) prevEl.classList.add('hidden');",
    "      var nextEl = document.getElementById('page-' + pageId);",
    "      if (nextEl) nextEl.classList.remove('hidden');",
    "      this.activePageId = pageId;",
    "",
    "      PROJECT_DATA.elements.forEach(function(el) \x7b",
    "        if (el.pageId !== pageId) return;",
    "        var domEl = document.querySelector('[data-el-id=\"' + el.id + '\"]');",
    "        if (domEl && domEl.style.animation && domEl.style.animation !== 'none') \x7b",
    "          var anim = domEl.style.animation;",
    "          domEl.style.animation = 'none';",
    "          void domEl.offsetHeight;",
    "          domEl.style.animation = anim;",
    "          self.animationStates[el.id] = anim;",
    "        \x7d",
    "      \x7d);",
    "    \x7d,",
    "",
    "    emit: function(action) \x7b",
    "      if (action.kind === 'ALERT') \x7b",
    "        this.pendingAlerts.push(action.message);",
    "      \x7d else if (action.kind === 'NAVIGATE') \x7b",
    "        this.pendingPage = action.pageId;",
    "      \x7d else if (action.kind === 'LINK') \x7b",
    "        if (action.newTab) \x7b window.open(action.url, '_blank'); \x7d",
    "        else \x7b window.location.href = action.url; \x7d",
    "      \x7d",
    "    \x7d,",
    "",
    "    flushAlerts: function() \x7b",
    "      var pending = this.pendingAlerts;",
    "      this.pendingAlerts = [];",
    "      pending.forEach(function(msg) \x7b setTimeout(function() \x7b alert(msg); \x7d, 0); \x7d);",
    "    \x7d,",
    "",
    "    evaluateNodeGraph: function(def, overrides, context, triggerState, emit) \x7b",
    "      var nodes = def.nodes || [];",
    "      var connections = def.connections || [];",
    "      var ctx = context || \x7b isHovered: false, isClicked: false, time: 0 \x7d;",
    "      var memo = new Map();",
    "      var inProgress = new Set();",
    "",
    "      var findNode = function(nodeId) \x7b",
    "        return nodes.find(function(n) \x7b return n.id === nodeId; \x7d);",
    "      \x7d;",
    "      var sourceOf = function(nodeId, socketId) \x7b",
    "        var conn = connections.find(function(c) \x7b return c.targetNodeId === nodeId && c.targetSocketId === socketId; \x7d);",
    "        return conn ? conn.sourceNodeId : null;",
    "      \x7d;",
    "      var risingEdge = function(nodeId, value) \x7b",
    "        var previous = triggerState[nodeId];",
    "        triggerState[nodeId] = value;",
    "        return value === true && previous !== true;",
    "      \x7d;",
    "",
    "      var evaluateNode = function(nodeId) \x7b",
    "        if (has(overrides, nodeId) && overrides[nodeId] !== undefined) return overrides[nodeId];",
    "        if (memo.has(nodeId)) return memo.get(nodeId);",
    "        if (inProgress.has(nodeId)) return null;",
    "        var node = findNode(nodeId);",
    "        if (!node) return null;",
    "        inProgress.add(nodeId);",
    "",
    "        var getVal = function(socketId) \x7b",
    "          var source = sourceOf(nodeId, socketId);",
    "          return source === null ? null : evaluateNode(source);",
    "        \x7d;",
    "        var val = node.data ? node.data.value : undefined;",
    "        var res = null;",
    "",
    "        switch (node.type) \x7b",
    "          case 'TEXT': case 'COLOR': case 'NUMBER': case 'TOGGLE': res = val; break;",
    "",
    "          case 'EQUAL': res = getVal('in-a') == getVal('in-b'); break;",
    "          case 'NOT_EQUAL': res = !(getVal('in-a') == getVal('in-b')); break;",
    "          case 'GREATER_THAN': \x7b var a = num(getVal('in-a')); res = a > num(getVal('in-b')); break; \x7d",
    "          case 'LESS_THAN': \x7b var a = num(getVal('in-a')); res = a < num(getVal('in-b')); break; \x7d",
    "          case 'GREATER_EQUAL': \x7b var a = num(getVal('in-a')); res = a >= num(getVal('in-b')); break; \x7d",
    "          case 'LESS_EQUAL': \x7b var a = num(getVal('in-a')); res = a <= num(getVal('in-b')); break; \x7d",
    "",
    "          case 'AND': res = !!(getVal('in-a') && getVal('in-b')); break;",
    "          case 'OR': res = !!(getVal('in-a') || getVal('in-b')); break;",
    "          case 'NOT': res = !getVal('in-a'); break;",
    "",
    "          case 'ADD': \x7b var a = numberOr(getVal('in-a'), 0); res = a + numberOr(getVal('in-b'), 0); break; \x7d",
    "          case 'SUBTRACT': \x7b var a = numberOr(getVal('in-a'), 0); res = a - numberOr(getVal('in-b'), 0); break; \x7d",
    "          case 'MULTIPLY': \x7b var a = numberOr(getVal('in-a'), 0); res = a * numberOr(getVal('in-b'), 0); break; \x7d",
    "          case 'DIVIDE': \x7b",
    "            var rawDivisor = getVal('in-b');",
    "            var divisor = rawDivisor == null ? 1 : num(rawDivisor);",
    "            res = divisor !== 0 ? numberOr(getVal('in-a'), 0) / divisor : 0;",
    "            break;",
    "          \x7d",
    "          case 'MODULO': \x7b",
    "            var rawMod = getVal('in-b');",
    "            var mod = rawMod == null ? 1 : num(rawMod);",
    "            res = mod !== 0 ? numberOr(getVal('in-a'), 0) % mod : 0;",
    "            break;",
    "          \x7d",
    "          case 'POWER': \x7b var a = numberOr(getVal('in-a'), 0); res = Math.pow(a, numberOr(getVal('in-b'), 1)); break; \x7d",
    "          case 'NEGATE': res = -numberOr(getVal('in-a'), 0); break;",
    "          case 'ABS': res = Math.abs(numberOr(getVal('in-a'), 0)); break;",
    "          case 'ROUND': res = Math.round(numberOr(getVal('in-a'), 0)); break;",
    "          case 'FLOOR': res = Math.floor(numberOr(getVal('in-a'), 0)); break;",
    "          case 'CEIL': res = Math.ceil(numberOr(getVal('in-a'), 0)); break;",
    "          case 'MIN': \x7b var a = numberOr(getVal('in-a'), 0); res = Math.min(a, numberOr(getVal('in-b'), 0)); break; \x7d",
    "          case 'MAX': \x7b var a = numberOr(getVal('in-a'), 0); res = Math.max(a, numberOr(getVal('in-b'), 0)); break; \x7d",
    "          case 'CLAMP': \x7b",
    "            var v = numberOr(getVal('in-value'), 0);",
    "            var lo = numberOr(getVal('in-min'), 0);",
    "            var hi = numberOr(getVal('in-max'), 1);",
    "            res = Math.min(Math.max(v, lo), hi);",
    "            break;",
    "          \x7d",
    "          case 'MAP_RANGE': \x7b",
    "            var input = numberOr(getVal('in-value'), 0);",
    "            var inMin = numberOr(getVal('in-in-min'), 0);",
    "            var inMax = numberOr(getVal('in-in-max'), 1);",
    "            var outMin = numberOr(getVal('in-out-min'), 0);",
    "            var outMax = numberOr(getVal('in-out-max'), 1);",
    "            var width = inMax - inMin;",
    "            res = width !== 0 ? outMin + ((input - inMin) / width) * (outMax - outMin) : outMin;",
    "            break;",
    "          \x7d",
    "          case 'RANDOM': res = Math.random(); break;",
    "          case 'SIN': res = Math.sin(numberOr(getVal('in-a'), 0)); break;",
    "          case 'COS': res = Math.cos(numberOr(getVal('in-a'), 0)); break;",
    "",
    "          case 'CONCAT': \x7b var s = String(getVal('in-a') || ''); res = s + String(getVal('in-b') || ''); break; \x7d",
    "",
    "          case 'INTERACTION_HOVER': res = !!ctx.isHovered; break;",
    "          case 'INTERACTION_CLICK': res = !!ctx.isClicked; break;",
    "          case 'TIMER': res = ctx.time * numberOr(getVal('in-speed'), 1); break;",
    "",
    "          case 'IF_ELSE': res = getVal('in-condition') ? getVal('in-true') : getVal('in-false'); break;",
    "",
    "          case 'STYLE': \x7b",
    "            var styleObj = \x7b\x7d;",
    "            var bg = getVal('in-bg');",
    "            if (bg != null) styleObj.backgroundColor = bg;",
    "            var color = getVal('in-text');",
    "            if (color != null) styleObj.color = color;",
    "            var size = getVal('in-size');",
    "            if (size != null) styleObj.fontSize = size;",
    "            res = styleObj;",
    "            break;",
    "          \x7d",
    "          case 'ANIMATION': \x7b",
    "            if (sourceOf(nodeId, 'in-trigger') !== null && !getVal('in-trigger')) \x7b",
    "              res = \x7b animation: 'none' \x7d;",
    "              break;",
    "            \x7d",
    "            var kind = String(val || 'fadeIn');",
    "            var dur = numberOr(getVal('in-duration'), 1);",
    "            var delay = numberOr(getVal('in-delay'), 0);",
    "            var iter = LOOPING_ANIMATIONS.includes(kind) ? 'infinite' : '1';",
    "            res = \x7b animation: kind + ' ' + dur + 's ease-in-out ' + delay + 's ' + iter + ' both' \x7d;",
    "            break;",
    "          \x7d",
    "          case 'TRANSITION': \x7b",
    "            var tDur = numberOr(getVal('in-duration'), 0.3);",
    "            var tDelay = numberOr(getVal('in-delay'), 0);",
    "            res = \x7b transition: 'all ' + tDur + 's ease-in-out ' + tDelay + 's' \x7d;",
    "            break;",
    "          \x7d",
    "          case 'MERGE': \x7b",
    "            var styleA = getVal('in-style-a');",
    "            var styleB = getVal('in-style-b');",
    "            res = Object.assign(\x7b\x7d, isObj(styleA) ? styleA : \x7b\x7d, isObj(styleB) ? styleB : \x7b\x7d);",
    "            break;",
    "          \x7d",
    "          case 'OUTPUT': res = null; break;",
    "",
    "          case 'NAVIGATE': \x7b",
    "            var trigger = getVal('in-trigger');",
    "            if (risingEdge(nodeId, trigger) && val) emit(\x7b kind: 'NAVIGATE', pageId: val \x7d);",
    "            break;",
    "          \x7d",
    "          case 'LINK': \x7b",
    "            var trigger = getVal('in-trigger');",
    "            var url = getVal('in-url') || val;",
    "            var newTab = getVal('in-new-tab');",
    "            if (newTab == null) newTab = node.data ? node.data.newTab : undefined;",
    "            if (risingEdge(nodeId, trigger) && url) emit(\x7b kind: 'LINK', url: String(url), newTab: !!newTab \x7d);",
    "            break;",
    "          \x7d",
    "          case 'ALERT': \x7b",
    "            var trigger = getVal('in-trigger');",
    "            var msg = getVal('in-message') || val;",
    "            if (risingEdge(nodeId, trigger) && msg) emit(\x7b kind: 'ALERT', message: String(msg) \x7d);",
    "            break;",
    "          \x7d",
    "",
    "          default: res = val;",
    "        \x7d",
    "        if (res === undefined) res = null;",
    "        inProgress.delete(nodeId);",
    "        memo.set(nodeId, res);",
    "        return res;",
    "      \x7d;",
    "",
    "      nodes.forEach(function(n) \x7b",
    "        if (ACTION_KINDS.includes(n.type)) evaluateNode(n.id);",
    "      \x7d);",
    "",
    "      var outputNode = nodes.find(function(n) \x7b return n.type === 'OUTPUT'; \x7d);",
    "      if (!outputNode) return \x7b style: \x7b\x7d, content: '' \x7d;",
    "",
    "      var finalStyle = \x7b\x7d;",
    "      var styleSource = sourceOf(outputNode.id, 'in-style');",
    "      if (styleSource !== null) \x7b",
    "        var computed = evaluateNode(styleSource);",
    "        if (isObj(computed)) finalStyle = Object.assign(\x7b\x7d, computed);",
    "      \x7d",
    "      var finalContent = undefined;",
    "      var contentSource = sourceOf(outputNode.id, 'in-content');",
    "      if (contentSource !== null) finalContent = String(evaluateNode(contentSource) || '');",
    "      return \x7b style: finalStyle, content: finalContent \x7d;",
    "    \x7d,",
    "",
    "    compose: function(el, context, emit) \x7b",
    "      var self = this;",
    "      var graphs = [];",
    "      if (el.type === 'CUSTOM') \x7b",
    "        var def = (el.isDetached && el.customNodeGroup)",
    "          ? el.customNodeGroup",
    "          : findById(PROJECT_DATA.components, el.customComponentId);",
    "        if (def) graphs.push(def);",
    "      \x7d",
    "      (el.scripts || []).forEach(function(sid) \x7b",
    "        var script = findById(PROJECT_DATA.scripts, sid);",
    "        if (script) graphs.push(script);",
    "      \x7d);",
    "",
    "      var computedStyle = \x7b\x7d;",
    "      var computedContent = undefined;",
    "      var triggerState = this.triggersFor(el.id);",
    "      graphs.forEach(function(def) \x7b",
    "        var res = self.evaluateNodeGraph(def, el.propOverrides || \x7b\x7d, context, triggerState, emit);",
    "        Object.assign(computedStyle, res.style);",
    "        if (res.content !== undefined) computedContent = res.content;",
    "      \x7d);",
    "      return \x7b",
    "        computedStyle: computedStyle,",
    "        computedContent: computedContent,",
    "        content: computedContent !== undefined ? computedContent : (el.content || ''),",
    "        dynamic: graphs.length > 0",
    "      \x7d;",
    "    \x7d,",
    "",
    "    applyAnimation: function(elementId, domEl, desired) \x7b",
    "      if (this.animationStates[elementId] === desired) return;",
    "      this.animationStates[elementId] = desired;",
    "      if (!desired || desired === 'none') \x7b",
    "        domEl.style.animation = 'none';",
    "        return;",
    "      \x7d",
    "      domEl.style.animation = 'none';",
    "      void domEl.offsetHeight;",
    "      domEl.style.animation = desired;",
    "    \x7d,",
    "",
    "    tick: function() \x7b",
    "      var self = this;",
    "      var emit = function(action) \x7b self.emit(action); \x7d;",
    "      this.state.time = (Date.now() - this.startTime) / 1000;",
    "      var activePageId = this.activePageId;",
    "",
    "      PROJECT_DATA.elements.forEach(function(el) \x7b",
    "        if (el.pageId !== activePageId) return;",
    "        var domEl = document.querySelector('[data-el-id=\"' + el.id + '\"]');",
    "        if (!domEl || !domEl.parentNode) return;",
    "",
    "        var context = \x7b",
    "          isHovered: !!self.state.hovers[el.id],",
    "          isClicked: !!self.state.clicks[el.id],",
    "          time: self.state.time",
    "        \x7d;",
    "        var comp = self.compose(el, context, emit);",
    "        if (!comp.dynamic) return;",
    "",
    "        if (comp.computedContent !== undefined && TEXT_ELEMENT_TYPES.includes(el.type)) \x7b",
    "          if (domEl.innerText !== comp.content) domEl.innerText = comp.content;",
    "        \x7d",
    "",
    "        var computed = comp.computedStyle;",
    "        SIMPLE_STYLE_KEYS.forEach(function(key) \x7b",
    "          if (!has(computed, key)) return;",
    "          var value = computed[key];",
    "          if (key === 'fontSize' && typeof value === 'number') value = value + 'px';",
    "          domEl.style[key] = value;",
    "        \x7d);",
    "",
    "        if (has(computed, 'animation')) self.applyAnimation(el.id, domEl, computed.animation);",
    "      \x7d);",
    "",
    "      this.flushAlerts();",
    "      if (this.pendingPage !== null) \x7b",
    "        var target = this.pendingPage;",
    "        this.pendingPage = null;",
    "        this.navigateTo(target);",
    "      \x7d",
    "    \x7d,",
    "",
    "    loop: function() \x7b",
    "      var self = this;",
    "      this.tick();",
    "      requestAnimationFrame(function() \x7b self.loop(); \x7d);",
    "    \x7d",
    "  \x7d;",
    "  return RUNTIME;",
    "\x7d"
  ]

/-- The script that runs an exported design in a browser. -/
def player : String :=
  "\n".intercalate playerLines ++ "\n"

end DesignGraph.Web
